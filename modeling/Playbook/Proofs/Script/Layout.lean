import Playbook.Script.Parser

/-! # Layouts of scripts

A text is a layout of statements when it can be cut into their items, with blanks and comments
between them. The relations of this module say so without reference to how a text is read. Each of
them relates a text to the rest of it that follows what is described, since a bare token and a
comment end where they do because of what comes next.
-/

namespace Playbook.Script

/-- No bare token goes on: the text has ended, or a blank, a bracket or a quotation mark is next. -/
def TokenEnds (rest : List Char) : Prop := ∀ c ∈ rest.head?, Text.isBlank c ∨ isDelimiter c

/-- The line has ended: the text has, or a line break is next. -/
def LineEnds (rest : List Char) : Prop := ∀ c ∈ rest.head?, c = '\n'

/-- Blanks and comments lead from a text to its rest. Line breaks count as blanks where `breaks`
says so; a comment stops in front of the line break. -/
inductive Spacing (breaks : Bool) : (text rest : List Char) → Prop
  | nothing (rest : List Char) : Spacing breaks rest rest
  | blank {c : Char} {text rest : List Char} (isBlank : Text.isBlank c)
      (allowed : c = '\n' → breaks) (more : Spacing breaks text rest) :
      Spacing breaks (c :: text) rest
  | comment {words text rest : List Char} (oneLine : '\n' ∉ words) (ends : LineEnds text)
      (more : Spacing breaks text rest) : Spacing breaks ('-' :: '-' :: (words ++ text)) rest

/-- The characters that stand for others after a backslash, each with the character it stands for.
-/
def escapes : List (Char × Char) := [('"', '"'), ('\\', '\\'), ('n', '\n'), ('t', '\t')]

/-- What may stand between quotation marks for a token: any of its characters as it is, except for
the mark, the backslash and the line break, or by its escape. -/
inductive Quoting : (token body : List Char) → Prop
  | nil : Quoting [] []
  | raw {c : Char} {token body : List Char} (notMark : c ≠ '"') (notBackslash : c ≠ '\\')
      (notBreak : c ≠ '\n') (more : Quoting token body) : Quoting (c :: token) (c :: body)
  | escape {c meant : Char} {token body : List Char} (listed : (c, meant) ∈ escapes)
      (more : Quoting token body) : Quoting (meant :: token) ('\\' :: c :: body)

mutual

/-- A text starts with a written form of an event. -/
inductive Written : Event → (text rest : List Char) → Prop
  | bare {token rest : List Char} (isBare : isBareToken token) (ends : TokenEnds rest) :
      Written (.bare (String.ofList token)) (token ++ rest) rest
  | quoted {token body : List Char} (rest : List Char) (quoting : Quoting token body) :
      Written (.quoted (String.ofList token)) ('"' :: (body ++ '"' :: rest)) rest
  | group {items : List Event} {text rest : List Char} (bracket : Bracket)
      (inside : Sequence true items text (bracket.closer :: rest)) :
      Written (.group items) (bracket.opener :: text) rest

/-- A text starts with written forms of events, with spacing before, between and after them. -/
inductive Sequence : (breaks : Bool) → List Event → (text rest : List Char) → Prop
  | nil {breaks : Bool} {text rest : List Char} (spacing : Spacing breaks text rest) :
      Sequence breaks [] text rest
  | cons {breaks : Bool} {item : Event} {items : List Event} {text start after rest : List Char}
      (spacing : Spacing breaks text start) (written : Written item start after)
      (more : Sequence breaks items after rest) : Sequence breaks (item :: items) text rest

end

/-- The text that is left of a script lays out statements. A statement starts with its first item
and ends with its line, except for line breaks inside of groups; its line is one more than the
number of line breaks before it. -/
inductive LaysOut (script : List Char) : (text : List Char) → List Statement → Prop
  | nil {text : List Char} (spacing : Spacing true text []) : LaysOut script text []
  | cons {before text start after stop : List Char} {item : Event} {items : List Event}
      {statements : List Statement} (spacing : Spacing true text start)
      (place : script = before ++ start) (written : Written item start after)
      (line : Sequence false items after stop) (ends : LineEnds stop)
      (more : LaysOut script stop statements) :
      LaysOut script text (⟨item :: items, some (1 + before.count '\n')⟩ :: statements)

/-- A text is a layout of statements. -/
def IsLayout (text : String) (statements : List Statement) : Prop :=
  LaysOut text.toList text.toList statements

end Playbook.Script
