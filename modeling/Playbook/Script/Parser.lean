import Playbook.Event.Printer
import Playbook.Script.Malformed

/-! # Reading scripts

A script is read one character at a time, from left to right. Bare tokens are separated by blanks
and end before a bracket or a quotation mark; strings stand between quotation marks on one line;
brackets hold groups, which may span lines; two dashes where a token would start begin a comment
that runs to the end of the line. A line break outside of all groups ends a statement that has
items.

The reader is a fold of `Reader.read` over the characters, so that what has been read of a text
never depends on what follows.
-/

namespace Playbook.Script

/-- What the reader is inside of. What has been read of a token is kept backwards. -/
inductive Mode where
  /-- Between tokens. -/
  | between
  /-- After one dash where a token would start. -/
  | dash
  /-- Inside a bare token. -/
  | token (read : List Char)
  /-- Inside a comment. -/
  | comment
  /-- Inside a string. -/
  | string (opened : Position) (read : List Char)
  /-- Inside a string, after a backslash. -/
  | escape (opened : Position) (read : List Char)
deriving DecidableEq, Repr

/-- A group that has not been closed, with the items that precede it on its level, last item first.
-/
structure OpenGroup where
  bracket : Bracket
  opened : Position
  preceding : List Event
deriving DecidableEq, Repr

/-- The state of the reader: items and statements are kept last first, groups innermost first. -/
structure Reader where
  position : Position := {}
  mode : Mode := .between
  groups : List OpenGroup := []
  items : List Event := []
  start : Option Nat := none
  statements : List Statement := []
deriving Repr

/-- The character that an escape in a string stands for. -/
def unescape? : Char → Option Char
  | '"' => some '"'
  | '\\' => some '\\'
  | 'n' => some '\n'
  | 't' => some '\t'
  | _ => none

/-- Whether a character ends a bare token. -/
def endsToken (c : Char) : Bool := Text.isBlank c || isDelimiter c

namespace Reader

/-- Notes that the statement has begun on the current line, unless it has begun before. -/
def begin (reader : Reader) : Reader :=
  { reader with start := reader.start.or (some reader.position.line) }

/-- Adds an item on the current level. -/
def emit (reader : Reader) (item : Event) : Reader :=
  { reader.begin with mode := .between, items := item :: reader.items }

/-- Adds the bare token that has been read. -/
def emitToken (reader : Reader) (read : List Char) : Reader :=
  reader.emit (.bare (String.ofList read.reverse))

/-- Ends the statement, if it has items. -/
def endStatement (reader : Reader) : Reader :=
  if reader.items.isEmpty then reader
  else { reader with
    items := []
    start := none
    statements := ⟨reader.items.reverse, reader.start⟩ :: reader.statements }

/-- Opens a group. -/
def openGroup (reader : Reader) (bracket : Bracket) : Reader :=
  { reader.begin with
    items := []
    groups := ⟨bracket, reader.position, reader.items⟩ :: reader.groups }

/-- Closes the innermost group, which must have been opened with the same bracket. -/
def closeGroup (reader : Reader) (bracket : Bracket) : Except Malformed Reader :=
  match reader.groups with
  | [] => .error ⟨.unmatched bracket, reader.position⟩
  | group :: outer =>
    if group.bracket = bracket then
      .ok { reader with items := .group reader.items.reverse :: group.preceding, groups := outer }
    else .error ⟨.mismatched group.bracket bracket, reader.position⟩

/-- Reads a character that stands between tokens. -/
def readBetween (reader : Reader) (c : Char) : Except Malformed Reader :=
  if c = '\n' then
    .ok (if reader.groups.isEmpty then reader.endStatement else reader)
  else if Text.isBlank c then .ok reader
  else if c = '"' then .ok { reader with mode := .string reader.position [] }
  else match Bracket.ofOpener? c, Bracket.ofCloser? c with
    | some bracket, _ => .ok (reader.openGroup bracket)
    | none, some bracket => reader.closeGroup bracket
    | none, none => .ok { reader with mode := if c = '-' then .dash else .token [c] }

/-- Reads a character in whatever the reader is inside of; the position is left alone. -/
def readInMode (reader : Reader) (c : Char) : Except Malformed Reader :=
  match reader.mode with
  | .between => reader.readBetween c
  | .dash =>
    if c = '-' then .ok { reader with mode := .comment }
    else if endsToken c then (reader.emitToken ['-']).readBetween c
    else .ok { reader with mode := .token [c, '-'] }
  | .token read =>
    if endsToken c then (reader.emitToken read).readBetween c
    else .ok { reader with mode := .token (c :: read) }
  | .comment =>
    if c = '\n' then { reader with mode := .between }.readBetween c else .ok reader
  | .string opened read =>
    if c = '\n' then .error ⟨.unterminatedString, opened⟩
    else if c = '"' then .ok (reader.emit (.quoted (String.ofList read.reverse)))
    else if c = '\\' then .ok { reader with mode := .escape opened read }
    else .ok { reader with mode := .string opened (c :: read) }
  | .escape opened read =>
    match unescape? c with
    | some meant => .ok { reader with mode := .string opened (meant :: read) }
    | none => .error ⟨.invalidEscape (some c), reader.position⟩

/-- Reads one character. -/
def read (reader : Reader) (c : Char) : Except Malformed Reader :=
  (reader.readInMode c).map fun next => { next with position := reader.position.after c }

/-- Reads a text. -/
def readAll (reader : Reader) (text : List Char) : Except Malformed Reader :=
  text.foldlM read reader

/-- Leaves the token that the reader is inside of, at the end of the text. -/
def finishToken (reader : Reader) : Except Malformed Reader :=
  match reader.mode with
  | .between | .comment => .ok reader
  | .dash => .ok (reader.emitToken ['-'])
  | .token read => .ok (reader.emitToken read)
  | .string opened _ => .error ⟨.unterminatedString, opened⟩
  | .escape _ _ => .error ⟨.invalidEscape none, reader.position⟩

/-- The statements of a text that ends here. -/
def finish (reader : Reader) : Except Malformed (List Statement) := do
  let reader ← reader.finishToken
  match reader.groups with
  | group :: _ => .error ⟨.unclosed group.bracket, group.opened⟩
  | [] => .ok reader.endStatement.statements.reverse

end Reader

/-- The statements of a script. -/
def parse (text : String) : Except Malformed (List Statement) :=
  ({} : Reader).readAll text.toList >>= Reader.finish

/-- The one statement of a text; a text without any gives the statement without items. -/
def parseStatement (text : String) : Except Malformed Statement := do
  match ← parse text with
  | [] => .ok { items := [] }
  | [statement] => .ok statement
  | _ :: second :: _ => .error ⟨.severalStatements, ⟨second.line.getD 1, 1⟩⟩

/-- Reading a text in two pieces. -/
theorem Reader.readAll_append (reader : Reader) (first second : List Char) :
    reader.readAll (first ++ second) = reader.readAll first >>= (·.readAll second) := by
  simp [readAll, List.foldlM_append]

end Playbook.Script
