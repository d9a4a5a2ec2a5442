import Mathlib.Data.List.Induction
import Playbook.Proofs.Script.Grammar
import Playbook.Proofs.Script.Joining

/-! # Where a script first goes wrong

A fault is told as early as it can be. Whatever the reader has got to without a fault can be
completed: what it is inside of can be ended, and then its groups can be closed. So a character at
fault is the first one through which the text cannot go on, and the end of a text is at fault only
if the text could have gone on. The place that is told is that of the character, or that of the
string or the group that has not ended; the groups that are open are known from the tokens, strings
and comments before.
-/

namespace Playbook.Script

/-! ### Places -/

/-- The place of what stands behind a text: its line is one more than the number of line breaks, its
column one more than the number of characters since the last of them. -/
def placeAfter (before : List Char) : Position :=
  ⟨1 + before.count '\n', 1 + (before.reverse.takeWhile (· ≠ '\n')).length⟩

/-- One more character moves the place on by that character. -/
theorem placeAfter_append_singleton (before : List Char) (c : Char) :
    placeAfter (before ++ [c]) = (placeAfter before).after c := by
  unfold placeAfter Position.after
  by_cases lineBreak : c = '\n'
  · simp [lineBreak, Nat.add_assoc]
  · simp [lineBreak, Nat.add_comm]

/-! ### Texts that can go on -/

/-- The text can be continued to a script that is read. -/
def CanGoOn (text : List Char) : Prop :=
  ∃ more statements, parse (String.ofList (text ++ more)) = .ok statements

/-- The text can go on up to `before`, and not through the character `c` that follows. -/
structure GoesWrongAt (text before : List Char) (c : Char) (after : List Char) : Prop where
  split : text = before ++ c :: after
  goesOn : CanGoOn before
  stuck : ¬ CanGoOn (before ++ [c])

namespace Reader

/-- Between two tokens the open groups can be closed, the innermost first. -/
theorem exists_resume_of_between (reader : Reader) (between : reader.mode = .between) :
    ∃ more statements, reader.resume more = .ok statements := by
  induction inside : reader.groups generalizing reader with
  | nil => exact ⟨[], _, finish_of_noGroups reader between inside⟩
  | cons group outer ih =>
      have taken : reader.readInMode group.bracket.closer = .ok { reader with
          items := .group reader.items.reverse :: group.preceding, groups := outer } := by
        have closing : reader.readBetween group.bracket.closer =
            reader.closeGroup group.bracket := by
          cases group.bracket <;> rfl
        simp only [readInMode, between, closing, closeGroup, inside, ↓reduceIte]
      obtain ⟨more, statements, completed⟩ := ih { reader with
        items := .group reader.items.reverse :: group.preceding
        groups := outer
        position := reader.position.after group.bracket.closer } between rfl
      exact ⟨_, statements, (Reaches.of_readInMode taken more).same.trans completed⟩

/-- In a string, what follows its mark. -/
theorem exists_resume_of_string (reader : Reader) {opened : Position} {read : List Char}
    (inString : reader.mode = .string opened read) :
    ∃ more statements, reader.resume more = .ok statements := by
  have closing : reader.readInMode '"' =
      .ok (reader.emit (.quoted (String.ofList read.reverse))) := by
    simp [readInMode, inString]
  obtain ⟨more, statements, completed⟩ := exists_resume_of_between
    { reader.emit (.quoted (String.ofList read.reverse)) with
      position := reader.position.after '"' } rfl
  exact ⟨'"' :: more, statements, (Reaches.of_readInMode closing more).same.trans completed⟩

/-- What the reader is inside of can be ended: a string by its mark, all else with the line. -/
theorem exists_resume (reader : Reader) :
    ∃ more statements, reader.resume more = .ok statements := by
  cases inside : reader.mode with
  | between | dash | token | comment =>
      obtain ⟨settled, settles⟩ : ∃ settled, reader.finishToken = .ok settled := by
        simp [finishToken, inside]
      have ended := readInMode_lineBreak settles
      obtain ⟨more, statements, completed⟩ := exists_resume_of_between
        { settled.endLine with position := reader.position.after '\n' } rfl
      exact ⟨'\n' :: more, statements, (Reaches.of_readInMode ended more).same.trans completed⟩
  | string opened read => exact exists_resume_of_string reader inside
  | escape opened read =>
      have escaped : reader.readInMode '"' =
          .ok { reader with mode := .string opened ('"' :: read) } := by
        simp [readInMode, inside, unescape?]
      obtain ⟨more, statements, completed⟩ := exists_resume_of_string
        { reader with
          mode := .string opened ('"' :: read)
          position := reader.position.after '"' } rfl
      exact ⟨'"' :: more, statements, (Reaches.of_readInMode escaped more).same.trans completed⟩

/-- The last character is read after all others. -/
theorem readAll_append_singleton (reader : Reader) (text : List Char) (c : Char) :
    reader.readAll (text ++ [c]) = reader.readAll text >>= (·.read c) := by
  rw [readAll_append]
  congr
  funext reader
  exact bind_pure (reader.read c)

end Reader

/-- A text that has been read without a fault can go on. -/
theorem canGoOn_of_readAll {text : List Char} {reader : Reader}
    (taken : ({} : Reader).readAll text = .ok reader) : CanGoOn text := by
  obtain ⟨more, statements, completed⟩ := reader.exists_resume
  refine ⟨more, statements, ?_⟩
  rw [parse, String.toList_ofList, Reader.readAll_append, taken]
  exact completed

/-- It cannot go on through a character that is a fault. -/
theorem not_canGoOn_of_readInMode {text : List Char} {reader : Reader} {c : Char}
    {fault : Malformed} (taken : ({} : Reader).readAll text = .ok reader)
    (refused : reader.readInMode c = .error fault) :
    ¬ CanGoOn (text ++ [c]) := by
  rintro ⟨more, statements, completed⟩
  rw [parse, String.toList_ofList, List.append_assoc, Reader.readAll_append, taken] at completed
  have failed : reader.resume (c :: more) = .error fault := Reader.resume_of_fault refused more
  cases failed.symm.trans completed

/-! ### Open groups -/

/-- Between two tokens of a script, the rest of it is inside of open groups, the innermost first,
each with the text before its bracket. A group that is opened comes first until it is closed. -/
inductive IsInside (script : List Char) :
    (groups : List (Bracket × List Char)) → (rest : List Char) → Prop
  | start : IsInside script [] script
  | spacing {groups : List (Bracket × List Char)} {text rest : List Char}
      (inside : IsInside script groups text) (spacing : Spacing true text rest) :
      IsInside script groups rest
  | atom {groups : List (Bracket × List Char)} {text rest : List Char} {token : String}
    {quoted : Bool}
      (inside : IsInside script groups text) (written : Written (.atom token quoted) text rest) :
      IsInside script groups rest
  | opener {groups : List (Bracket × List Char)} {bracket : Bracket} {before rest : List Char}
      (inside : IsInside script groups (bracket.opener :: rest))
      (place : script = before ++ bracket.opener :: rest) :
      IsInside script ((bracket, before) :: groups) rest
  | closer {groups : List (Bracket × List Char)} {bracket : Bracket} {before rest : List Char}
      (inside : IsInside script ((bracket, before) :: groups) (bracket.closer :: rest)) :
      IsInside script groups rest

/-- After `before`, a quotation mark opens a string, and `body` is what stands in it before the
rest. -/
structure IsInString (script before body rest : List Char) : Prop where
  split : script = before ++ '"' :: (body ++ rest)
  opens : ∃ groups, IsInside script groups ('"' :: (body ++ rest))
  quoting : ∃ token, Quoting token body

/-- What a fault of a script tells is true, and could not have been told earlier. -/
inductive PointsAt (script : List Char) : Malformed → Prop
  /-- A bracket outside of groups. -/
  | unmatched {before after : List Char} {bracket : Bracket}
      (first : GoesWrongAt script before bracket.closer after)
      (outside : IsInside script [] (bracket.closer :: after)) :
      PointsAt script ⟨.unmatched bracket, placeAfter before⟩
  /-- A bracket of the other kind than that of the innermost group. -/
  | mismatched {before after opened : List Char} {expected found : Bracket}
      {outer : List (Bracket × List Char)} (first : GoesWrongAt script before found.closer after)
      (inside : IsInside script ((expected, opened) :: outer) (found.closer :: after))
      (differ : expected ≠ found) :
      PointsAt script ⟨.mismatched expected found, placeAfter before⟩
  /-- A character after a backslash in a string. -/
  | escape {opened body after : List Char} {c : Char}
      (first : GoesWrongAt script (opened ++ '"' :: (body ++ ['\\'])) c after)
      (inString : IsInString script opened body ('\\' :: c :: after))
      (unlisted : unescape? c = none) :
      PointsAt script ⟨.invalidEscape (some c), placeAfter (opened ++ '"' :: (body ++ ['\\']))⟩
  /-- The end of the text after a backslash in a string. -/
  | escapeAtEnd {opened body : List Char} (goesOn : CanGoOn script)
      (inString : IsInString script opened body ['\\']) :
      PointsAt script ⟨.invalidEscape none, placeAfter script⟩
  /-- A string that does not end before its line does. -/
  | string {opened body rest : List Char} (inString : IsInString script opened body rest)
      (ends : '\n' ∉ body ∧ LineEnds rest) (goesOn : CanGoOn (opened ++ '"' :: body))
      (stuck : rest ≠ [] → ¬ CanGoOn (opened ++ '"' :: (body ++ ['\n']))) :
      PointsAt script ⟨.unterminatedString, placeAfter opened⟩
  /-- The innermost of the groups that are open at the end of the text. -/
  | unclosed {bracket : Bracket} {opened : List Char} {outer : List (Bracket × List Char)}
      (goesOn : CanGoOn script) (inside : IsInside script ((bracket, opened) :: outer) []) :
      PointsAt script ⟨.unclosed bracket, placeAfter opened⟩

/-! ### Pieces -/

/-- Two quoted texts one after the other quote their tokens one after the other. -/
theorem Quoting.append {token more body rear : List Char} (first : Quoting token body)
    (second : Quoting more rear) : Quoting (token ++ more) (body ++ rear) := by
  induction first with
  | nil => exact second
  | raw notMark notBackslash notBreak _ ih => exact .raw notMark notBackslash notBreak ih
  | escape listed _ ih => exact .escape listed ih

/-- What has been read of the comment, token or string that the reader is inside of and that has its
place at `start`. -/
inductive Piece (start : Position) : Mode → List Char → Prop
  | between : Piece start .between []
  | dash : Piece start .dash ['-']
  | token {read : List Char} (nonempty : read ≠ []) (plain : ∀ c ∈ read, endsToken c = false)
      (noComment : ∀ more, startsComment (read.reverse ++ more) = false) :
      Piece start (.token read) read.reverse
  | comment {words : List Char} (oneLine : '\n' ∉ words) :
      Piece start .comment ('-' :: '-' :: words)
  | string {read body : List Char} (quoting : Quoting read.reverse body) :
      Piece start (.string start read) ('"' :: body)
  | escape {read body : List Char} (quoting : Quoting read.reverse body) :
      Piece start (.escape start read) ('"' :: (body ++ ['\\']))

/-- At the end of a text a token ends. -/
theorem tokenEnds_nil : TokenEnds [] := fun _ isNext => nomatch isNext

/-- At the end of a text a line ends. -/
theorem lineEnds_nil : LineEnds [] := fun _ isNext => nomatch isNext

namespace Piece

variable {start : Position} {piece read : List Char} {c : Char}

/-- A piece starts with a character that does not end tokens. -/
theorem first (plain : endsToken c = false) :
    Piece start (if c = '-' then .dash else .token [c]) [c] := by
  split
  case isTrue dash => exact dash ▸ .dash
  case isFalse noDash =>
    have noComment (more : List Char) : startsComment ([c].reverse ++ more) = false := by
      simp [startsComment, noDash]
    exact .token (List.cons_ne_nil c []) (List.forall_mem_singleton.mpr plain) noComment

/-- A dash and a character that is no dash are the start of a token. -/
theorem afterDash (noDash : c ≠ '-') (plain : endsToken c = false) :
    Piece start (.token [c, '-']) ['-', c] := by
  have allPlain : ∀ other ∈ [c, '-'], endsToken other = false := by
    simpa using ⟨plain, by decide⟩
  have noComment (more : List Char) : startsComment ([c, '-'].reverse ++ more) = false := by
    simp [startsComment, noDash]
  exact .token (List.cons_ne_nil c ['-']) allPlain noComment

/-- A token goes on with every character that does not end tokens. -/
theorem inToken (isPiece : Piece start (.token read) piece) (plain : endsToken c = false) :
    Piece start (.token (c :: read)) (piece ++ [c]) := by
  cases isPiece with
  | token _ others noComment =>
      rw [← List.reverse_cons]
      refine .token (List.cons_ne_nil c read) (List.forall_mem_cons.mpr ⟨plain, others⟩)
        fun more => ?_
      simpa using noComment (c :: more)

/-- A comment goes on with every character but a line break. -/
theorem inComment (isPiece : Piece start .comment piece) (noBreak : c ≠ '\n') :
    Piece start .comment (piece ++ [c]) := by
  cases isPiece with
  | @comment words oneLine =>
      have longer : '\n' ∉ words ++ [c] := by simpa using ⟨oneLine, Ne.symm noBreak⟩
      exact .comment longer

/-- A string goes on with every character that stands for itself. -/
theorem inString (isPiece : Piece start (.string start read) piece) (noMark : c ≠ '"')
    (noBackslash : c ≠ '\\') (noBreak : c ≠ '\n') :
    Piece start (.string start (c :: read)) (piece ++ [c]) := by
  cases isPiece with
  | @string _ body quoting =>
      have longer : Quoting (c :: read).reverse (body ++ [c]) := by
        rw [List.reverse_cons]
        exact quoting.append (.raw noMark noBackslash noBreak .nil)
      exact .string longer

/-- A string goes on with what an escape stands for. -/
theorem inEscape (isPiece : Piece start (.escape start read) piece) {meant : Char}
    (found : unescape? c = some meant) :
    Piece start (.string start (meant :: read)) (piece ++ [c]) := by
  cases isPiece with
  | @escape _ body quoting =>
      have longer : Quoting (meant :: read).reverse (body ++ ['\\', c]) := by
        rw [List.reverse_cons]
        exact quoting.append (.escape (unescape?_eq_some_iff.mp found) .nil)
      simpa using Piece.string longer

end Piece

/-- What the reader is inside of has ended before the rest. -/
def Mode.EndsBefore (rest : List Char) : Mode → Prop
  | .between => True
  | .dash | .token _ => TokenEnds rest
  | .comment => LineEnds rest
  | .string _ _ | .escape _ _ => False

/-- A piece that has ended leaves the reader between two tokens. -/
theorem Piece.isInside {start : Position} {mode : Mode} {script piece rest : List Char}
    {groups : List (Bracket × List Char)} (isPiece : Piece start mode piece)
    (ends : mode.EndsBefore rest) (inside : IsInside script groups (piece ++ rest)) :
    IsInside script groups rest := by
  cases isPiece with
  | between => exact inside
  | dash => exact inside.atom (.bare (by decide) ends)
  | token nonempty plain noComment =>
      have isBare : isBareToken _ := isBareToken_iff.mpr
        ⟨List.reverse_ne_nil_iff.mpr nonempty, by simpa using noComment [],
          fun c member => plain c (List.mem_reverse.mp member)⟩
      exact inside.atom (.bare isBare ends)
  | comment oneLine => exact inside.spacing (.comment oneLine ends (.nothing rest))
  | string | escape => exact ends.elim

/-! ### What the reader keeps -/

namespace Reader

/-- What becomes of the mode and the groups of the reader with a character between two tokens. -/
inductive BetweenCase (reader : Reader) : Char → Except Malformed Reader → Prop
  | blank {c : Char} {next : Reader} (isBlank : Text.isBlank c) (mode : next.mode = reader.mode)
      (groups : next.groups = reader.groups) : BetweenCase reader c (.ok next)
  | mark {next : Reader} (mode : next.mode = .string reader.position [])
      (groups : next.groups = reader.groups) : BetweenCase reader '"' (.ok next)
  | opener {bracket : Bracket} {preceding : List Event} {next : Reader}
      (mode : next.mode = reader.mode)
      (groups : next.groups = ⟨bracket, reader.position, preceding⟩ :: reader.groups) :
      BetweenCase reader bracket.opener (.ok next)
  | closer {group : OpenGroup} {next : Reader} (mode : next.mode = reader.mode)
      (groups : reader.groups = group :: next.groups) :
      BetweenCase reader group.bracket.closer (.ok next)
  | plain {c : Char} {next : Reader} (plain : endsToken c = false)
      (mode : next.mode = if c = '-' then .dash else .token [c])
      (groups : next.groups = reader.groups) : BetweenCase reader c (.ok next)
  | unmatched {bracket : Bracket} (groups : reader.groups = []) :
      BetweenCase reader bracket.closer (.error ⟨.unmatched bracket, reader.position⟩)
  | mismatched {group : OpenGroup} {outer : List OpenGroup} {found : Bracket}
      (groups : reader.groups = group :: outer) (differ : group.bracket ≠ found) :
      BetweenCase reader found.closer (.error ⟨.mismatched group.bracket found, reader.position⟩)

/-- Ending a statement keeps the mode and the groups. -/
theorem endStatement_within (reader : Reader) :
    reader.endStatement.mode = reader.mode ∧ reader.endStatement.groups = reader.groups := by
  unfold endStatement
  split <;> exact ⟨rfl, rfl⟩

/-- A closing bracket closes the innermost group or is at fault. -/
theorem betweenCase_closer (reader : Reader) (bracket : Bracket) :
    reader.BetweenCase bracket.closer (reader.closeGroup bracket) := by
  unfold closeGroup
  split
  case h_1 outside => exact .unmatched outside
  case h_2 group outer inside =>
    split
    case isTrue same => exact same ▸ .closer rfl inside
    case isFalse differ => exact .mismatched inside differ

/-- What becomes of the reader with a character between two tokens is one of the cases. -/
theorem betweenCase (reader : Reader) (c : Char) : reader.BetweenCase c (reader.readBetween c) := by
  unfold readBetween
  by_cases lineBreak : c = '\n'
  · rw [if_pos lineBreak]
    have isBlank : Text.isBlank c := lineBreak ▸ isBlank_lineBreak
    split
    · exact .blank isBlank reader.endStatement_within.1 reader.endStatement_within.2
    · exact .blank isBlank rfl rfl
  rw [if_neg lineBreak]
  by_cases isBlank : Text.isBlank c
  · rw [if_pos isBlank]
    exact .blank isBlank rfl rfl
  rw [if_neg isBlank]
  by_cases mark : c = '"'
  · rw [if_pos mark, mark]
    exact .mark rfl rfl
  rw [if_neg mark]
  cases opener : Bracket.ofOpener? c with
  | some bracket =>
      rw [← Bracket.opener_of_ofOpener? opener]
      exact .opener rfl rfl
  | none =>
      cases closer : Bracket.ofCloser? c with
      | some bracket =>
          rw [← Bracket.closer_of_ofCloser? closer]
          exact reader.betweenCase_closer bracket
      | none =>
          have plain : endsToken c = false := endsToken_eq_false_iff.mpr
            ⟨Bool.eq_false_iff.mpr isBlank, mark, opener, closer⟩
          exact .plain plain rfl rfl

/-- The reader has read a script up to the rest, the last of it being a piece that has not ended. -/
structure Tracks (reader : Reader) (script before piece rest : List Char)
    (groups : List (Bracket × List Char)) : Prop where
  split : script = before ++ (piece ++ rest)
  place : reader.position = placeAfter (before ++ piece)
  isPiece : Piece (placeAfter before) reader.mode piece
  inside : IsInside script groups (piece ++ rest)
  opened : reader.groups.map (fun group => (group.bracket, group.opened)) =
    groups.map fun group => (group.1, placeAfter group.2)

variable {reader next : Reader} {script before piece rest : List Char} {c : Char}
  {groups : List (Bracket × List Char)}

/-- The reader gets between two tokens behind a piece that has ended. -/
theorem Tracks.past (tracks : reader.Tracks script before piece rest groups)
    (ends : reader.mode.EndsBefore rest) (between : next.mode = .between)
    (sameGroups : next.groups = reader.groups) (samePlace : next.position = reader.position) :
    next.Tracks script (before ++ piece) [] rest groups where
  split := by rw [tracks.split, List.append_assoc, List.nil_append]
  place := by rw [samePlace, tracks.place, List.append_nil]
  isPiece := between ▸ .between
  inside := tracks.isPiece.isInside ends tracks.inside
  opened := sameGroups ▸ tracks.opened

/-- The innermost group of the reader is the innermost that is open. -/
theorem Tracks.innermost (tracks : reader.Tracks script before piece rest groups)
    {group : OpenGroup} {outer : List OpenGroup} (inGroup : reader.groups = group :: outer) :
    ∃ opened others, groups = (group.bracket, opened) :: others ∧ group.opened = placeAfter opened ∧
      outer.map (fun group => (group.bracket, group.opened)) =
        others.map fun group => (group.1, placeAfter group.2) := by
  have opened := tracks.opened.symm
  rw [inGroup, List.map_cons, List.map_eq_cons_iff] at opened
  obtain ⟨⟨bracket, opened⟩, others, rfl, same, sameOthers⟩ := opened
  obtain ⟨rfl, place⟩ := Prod.mk.inj same
  exact ⟨opened, others, rfl, place.symm, sameOthers.symm⟩

/-- A character continues the piece that the reader is inside of. -/
theorem Tracks.within (tracks : reader.Tracks script before piece (c :: rest) groups)
    (isPiece : Piece (placeAfter before) next.mode (piece ++ [c]))
    (sameGroups : next.groups = reader.groups) :
    Tracks { next with position := reader.position.after c } script before
      (piece ++ [c]) rest groups where
  split := by rw [tracks.split, List.append_assoc, List.singleton_append]
  place := by rw [← List.append_assoc, placeAfter_append_singleton, tracks.place]
  isPiece := isPiece
  inside := by
    rw [List.append_assoc]
    exact tracks.inside
  opened := sameGroups ▸ tracks.opened

/-- A character leads the reader between two tokens. -/
theorem Tracks.behind (tracks : reader.Tracks script before piece (c :: rest) groups)
    (between : next.mode = .between) {inner : List (Bracket × List Char)}
    (inside : IsInside script inner rest)
    (opened : next.groups.map (fun group => (group.bracket, group.opened)) =
      inner.map fun group => (group.1, placeAfter group.2)) :
    Tracks { next with position := reader.position.after c } script (before ++ piece ++ [c]) [] rest
      inner where
  split := by rw [tracks.split]; simp
  place := by rw [List.append_nil, placeAfter_append_singleton, tracks.place]
  isPiece := between ▸ .between
  inside := inside
  opened := opened

/-- A reader whose piece starts with a quotation mark is in a string. -/
theorem Tracks.isInString {token body : List Char}
    (tracks : reader.Tracks script before ('"' :: body) rest groups)
    (quoting : Quoting token body) :
    IsInString script before body rest :=
  ⟨tracks.split, ⟨groups, tracks.inside⟩, ⟨token, quoting⟩⟩

/-- So is a reader whose piece ends with a backslash in a string. -/
theorem Tracks.isInString_escape {token body : List Char}
    (tracks : reader.Tracks script before ('"' :: (body ++ ['\\'])) rest groups)
    (quoting : Quoting token body) : IsInString script before body ('\\' :: rest) := by
  refine ⟨?_, ⟨groups, ?_⟩, ⟨token, quoting⟩⟩
  · simpa using tracks.split
  · simpa using tracks.inside

/-- What a script comes to with the character behind what has been read: the reader goes on, or its
fault is true if the script goes wrong there. -/
def Accounts (script read : List Char) (c : Char) (rest : List Char) :
    Except Malformed Reader → Prop
  | .ok next => ∃ before piece groups,
      Tracks { next with position := (placeAfter read).after c } script before piece rest groups
  | .error fault => GoesWrongAt script read c rest → PointsAt script fault

/-- Between two tokens. -/
theorem Tracks.readBetween (tracks : reader.Tracks script before [] (c :: rest) groups)
    (between : reader.mode = .between) : Accounts script before c rest (reader.readBetween c) := by
  have start : reader.position = placeAfter before := by rw [tracks.place, List.append_nil]
  have possible := reader.betweenCase c
  generalize reader.readBetween c = result at possible
  cases possible with
  | blank isBlank mode sameGroups =>
      have inside : IsInside script groups rest :=
        tracks.inside.spacing (.blank isBlank (fun _ => rfl) (.nothing rest))
      exact ⟨_, _, _, start ▸ tracks.behind (mode.trans between) inside
        (sameGroups ▸ tracks.opened)⟩
  | @mark next mode sameGroups =>
      have isPiece : Piece (placeAfter before) next.mode ['"'] := by
        rw [mode, start]
        exact .string .nil
      exact ⟨_, _, _, start ▸ tracks.within isPiece sameGroups⟩
  | @opener bracket preceding next mode opens =>
      have opened : next.groups.map (fun group => (group.bracket, group.opened)) =
          ((bracket, before) :: groups).map fun group => (group.1, placeAfter group.2) := by
        rw [opens, List.map_cons, List.map_cons, start, tracks.opened]
      have inside := tracks.inside.opener tracks.split
      exact ⟨_, _, _, start ▸ tracks.behind (mode.trans between) inside opened⟩
  | @closer group next mode closes =>
      obtain ⟨opened, outer, rfl, -, others⟩ := tracks.innermost closes
      have inside := tracks.inside.closer
      exact ⟨_, _, _, start ▸ tracks.behind (mode.trans between) inside others⟩
  | @plain _ next plain mode sameGroups =>
      have isPiece : Piece (placeAfter before) next.mode [c] := by
        rw [mode]
        exact .first plain
      exact ⟨_, _, _, start ▸ tracks.within isPiece sameGroups⟩
  | unmatched noGroups =>
      intro first
      have opened := tracks.opened.symm
      rw [noGroups, List.map_nil, List.map_eq_nil_iff] at opened
      subst opened
      exact start ▸ .unmatched first tracks.inside
  | mismatched inGroup differ =>
      intro first
      obtain ⟨opened, outer, rfl, -, -⟩ := tracks.innermost inGroup
      exact start ▸ .mismatched first tracks.inside differ

/-- Behind a piece that ends with the character. -/
theorem Tracks.readBehind (tracks : reader.Tracks script before piece (c :: rest) groups)
    (ends : reader.mode.EndsBefore (c :: rest)) (settled : Reader)
    (between : settled.mode = .between)
    (sameGroups : settled.groups = reader.groups) (samePlace : settled.position = reader.position) :
    Accounts script (before ++ piece) c rest (settled.readBetween c) :=
  (tracks.past ends between sameGroups samePlace).readBetween between

/-- In whatever the reader is inside of. -/
theorem Tracks.readInMode (tracks : reader.Tracks script before piece (c :: rest) groups) :
    Accounts script (before ++ piece) c rest (reader.readInMode c) := by
  obtain ⟨position, mode, open', items, line, statements⟩ := reader
  obtain rfl : position = placeAfter (before ++ piece) := tracks.place
  have isPiece := tracks.isPiece
  unfold Reader.readInMode
  cases isPiece with
  | between =>
      rw [List.append_nil] at tracks ⊢
      exact tracks.readBetween rfl
  | dash =>
      simp only
      split
      case isTrue dash =>
        subst dash
        exact ⟨_, _, _, tracks.within (.comment List.not_mem_nil) rfl⟩
      split
      case isTrue ends =>
        exact tracks.readBehind (tokenEnds_cons.mpr ends) (emitToken _ ['-']) rfl rfl rfl
      case isFalse noDash notEnds =>
        exact ⟨_, _, _, tracks.within (.afterDash noDash (Bool.eq_false_iff.mpr notEnds)) rfl⟩
  | @token read =>
      simp only
      split
      case isTrue ends =>
        exact tracks.readBehind (tokenEnds_cons.mpr ends) (emitToken _ read) rfl rfl rfl
      case isFalse notEnds =>
        have longer := tracks.isPiece.inToken (Bool.eq_false_iff.mpr notEnds)
        exact ⟨_, _, _, tracks.within longer rfl⟩
  | comment =>
      simp only
      split
      case isTrue lineBreak => exact tracks.readBehind (lineEnds_cons.mpr lineBreak) _ rfl rfl rfl
      case isFalse noBreak => exact ⟨_, _, _, tracks.within (tracks.isPiece.inComment noBreak) rfl⟩
  | @string read body quoting =>
      simp only
      split
      case isTrue lineBreak =>
        intro first
        subst lineBreak
        have oneLine : '\n' ∉ body := List.count_eq_zero.mp quoting.oneLine
        exact .string (tracks.isInString quoting) ⟨oneLine, lineEnds_cons.mpr rfl⟩ first.goesOn
          fun _ => by simpa using first.stuck
      split
      case isTrue mark =>
        subst mark
        have inside := tracks.inside.atom (.quoted rest quoting)
        have between (reader : Reader) (item : Event) : (reader.emit item).mode = .between := rfl
        exact ⟨_, _, _, tracks.behind (between _ _) inside tracks.opened⟩
      split
      case isTrue backslash =>
        subst backslash
        exact ⟨_, _, _, tracks.within (.escape quoting) rfl⟩
      case isFalse noBreak noMark noBackslash =>
        have longer := tracks.isPiece.inString noMark noBackslash noBreak
        exact ⟨_, _, _, tracks.within longer rfl⟩
  | escape quoting =>
      simp only
      split
      case h_1 meant found => exact ⟨_, _, _, tracks.within (tracks.isPiece.inEscape found) rfl⟩
      case h_2 unlisted =>
        intro first
        exact .escape first (tracks.isInString_escape quoting) unlisted

/-- Counting places does not change a fault. -/
theorem read_eq_error_iff {fault : Malformed} :
    reader.read c = .error fault ↔ reader.readInMode c = .error fault := by
  unfold read
  cases reader.readInMode c <;> simp [Except.map]

/-- A character is read by being read in the mode and counted. -/
theorem read_eq_ok_iff :
    reader.read c = .ok next ↔ ∃ inMode, reader.readInMode c = .ok inMode ∧
      { inMode with position := reader.position.after c } = next := by
  unfold read
  cases reader.readInMode c <;> simp [Except.map]

/-- A reading that fails does so at some character. -/
theorem exists_of_readAll_error {text : List Char} {fault : Malformed}
    (refused : reader.readAll text = .error fault) :
    ∃ read c rest stuck, text = read ++ c :: rest ∧ reader.readAll read = .ok stuck ∧
      stuck.readInMode c = .error fault := by
  induction text using List.reverseRecOn with
  | nil => cases refused
  | append_singleton text last ih =>
      rw [readAll_append_singleton] at refused
      cases earlier : reader.readAll text with
      | error other =>
          rw [earlier] at refused
          obtain rfl : other = fault := Except.error.inj refused
          obtain ⟨read, c, rest, stuck, rfl, taken, failed⟩ := ih earlier
          exact ⟨read, c, rest ++ [last], stuck, by simp, taken, failed⟩
      | ok stuck =>
          rw [earlier] at refused
          exact ⟨text, last, [], stuck, rfl, earlier, read_eq_error_iff.mp refused⟩

/-- Reading keeps the place, the piece and the open groups. -/
theorem exists_tracks_of_readAll {read : List Char} {reader : Reader}
    (taken : ({} : Reader).readAll read = .ok reader) (rest : List Char) :
    ∃ before piece groups, before ++ piece = read ∧
      reader.Tracks (read ++ rest) before piece rest groups := by
  induction read using List.reverseRecOn generalizing reader rest with
  | nil =>
      obtain rfl := Except.ok.inj taken
      exact ⟨[], [], [], rfl, rfl, rfl, .between, .start, rfl⟩
  | append_singleton read c ih =>
      rw [readAll_append_singleton] at taken
      cases earlier : ({} : Reader).readAll read with
      | error fault =>
          rw [earlier] at taken
          cases taken
      | ok middle =>
          obtain ⟨before, piece, groups, rfl, tracks⟩ := ih earlier (c :: rest)
          rw [earlier] at taken
          obtain ⟨inMode, inModeTaken, rfl⟩ := read_eq_ok_iff.mp taken
          have accounts := tracks.readInMode
          rw [inModeTaken] at accounts
          obtain ⟨before', piece', groups', after⟩ := accounts
          rw [tracks.place, List.append_assoc (before ++ piece), List.singleton_append]
          have split : before ++ piece ++ [c] ++ rest = before' ++ piece' ++ rest := by
            simpa using after.split
          exact ⟨before', piece', groups', (List.append_cancel_right split).symm, after⟩

/-- What the end of the text settles keeps the open groups. -/
theorem exists_settled_of_endsBefore (ends : reader.mode.EndsBefore rest) :
    ∃ settled, reader.finishToken = .ok settled ∧ settled.groups = reader.groups := by
  unfold finishToken
  cases inside : reader.mode with
  | between | comment => exact ⟨reader, rfl, rfl⟩
  | dash => exact ⟨reader.emitToken ['-'], rfl, rfl⟩
  | token read => exact ⟨reader.emitToken read, rfl, rfl⟩
  | string | escape =>
      rw [inside] at ends
      exact ends.elim

/-- Where the last piece ends with the text, a group is open. -/
theorem Tracks.finish_of_endsBefore (tracks : reader.Tracks script before piece [] groups)
    (ends : reader.mode.EndsBefore []) (goesOn : CanGoOn script) {fault : Malformed}
    (refused : reader.finish = .error fault) : PointsAt script fault := by
  obtain ⟨settled, settles, sameGroups⟩ := exists_settled_of_endsBefore ends
  have inside := tracks.isPiece.isInside ends tracks.inside
  rw [finish_of_settled settles, sameGroups] at refused
  cases inGroup : reader.groups with
  | nil =>
      rw [inGroup] at refused
      cases refused
  | cons group outer =>
      rw [inGroup] at refused
      obtain rfl := Except.error.inj refused
      obtain ⟨opened, outer, rfl, place, -⟩ := tracks.innermost inGroup
      rw [place]
      exact .unclosed goesOn inside

/-- At the end of the text. -/
theorem Tracks.finish (tracks : reader.Tracks script before piece [] groups)
    (goesOn : CanGoOn script)
    {fault : Malformed} (refused : reader.finish = .error fault) : PointsAt script fault := by
  have isPiece := tracks.isPiece
  cases mode : reader.mode with
  | between => exact tracks.finish_of_endsBefore (mode ▸ trivial) goesOn refused
  | dash | token => exact tracks.finish_of_endsBefore (mode ▸ tokenEnds_nil) goesOn refused
  | comment => exact tracks.finish_of_endsBefore (mode ▸ lineEnds_nil) goesOn refused
  | string opened read =>
      have failed : reader.finishToken = .error ⟨.unterminatedString, opened⟩ := by
        rw [finishToken, mode]
      obtain rfl := Except.error.inj ((finish_of_fault failed).symm.trans refused)
      rw [mode] at isPiece
      cases isPiece with
      | string quoting =>
          have oneLine := List.count_eq_zero.mp quoting.oneLine
          have inString := tracks.isInString quoting
          have whole := inString.split
          rw [List.append_nil] at whole
          exact .string inString ⟨oneLine, lineEnds_nil⟩ (whole ▸ goesOn) (absurd rfl)
  | escape opened read =>
      have failed : reader.finishToken = .error ⟨.invalidEscape none, reader.position⟩ := by
        rw [finishToken, mode]
      obtain rfl := Except.error.inj ((finish_of_fault failed).symm.trans refused)
      rw [mode] at isPiece
      cases isPiece with
      | escape quoting =>
          have whole := tracks.split
          rw [List.append_nil] at whole
          rw [tracks.place, ← whole]
          exact .escapeAtEnd goesOn (tracks.isInString_escape quoting)

end Reader

/-- **The earliest fault.** A text that is not read is refused for what is true of it, at the place
where this is. A bracket or an escape at fault is the first character through which the text cannot
go on, and what is told at the end of a text, or at the end of the line of a string, is told of what
could have gone on up to there; the group that is told is the innermost of those that are open. -/
theorem pointsAt_of_parse {text : String} {fault : Malformed}
    (refused : parse text = .error fault) :
    PointsAt text.toList fault := by
  rw [parse] at refused
  cases taken : ({} : Reader).readAll text.toList with
  | error other =>
      rw [taken] at refused
      obtain rfl := Except.error.inj refused
      obtain ⟨read, c, rest, stuck, split, taken, failed⟩ := Reader.exists_of_readAll_error taken
      obtain ⟨before, piece, groups, rfl, tracks⟩ :=
        Reader.exists_tracks_of_readAll taken (c :: rest)
      have accounts := tracks.readInMode
      rw [failed, ← split] at accounts
      exact accounts ⟨split, canGoOn_of_readAll taken, not_canGoOn_of_readInMode taken failed⟩
  | ok reader =>
      rw [taken] at refused
      obtain ⟨before, piece, groups, -, tracks⟩ := Reader.exists_tracks_of_readAll taken []
      rw [List.append_nil] at tracks
      exact tracks.finish (canGoOn_of_readAll taken) refused

/-- On the second line, behind a string with an escape and a comment, a group is closed by the other
bracket; without that bracket it is not closed at all. -/
theorem pointsAt_of_parse_secondLine :
    PointsAt "(a \"b\\t\" -- )\n [c)".toList ⟨.mismatched .square .round, ⟨2, 4⟩⟩ ∧
      PointsAt "(a \"b\\t\" -- )\n [c".toList ⟨.unclosed .square, ⟨2, 2⟩⟩ := by
  have mismatched :
      parse "(a \"b\\t\" -- )\n [c)" = .error ⟨.mismatched .square .round, ⟨2, 4⟩⟩ := rfl
  have unclosed : parse "(a \"b\\t\" -- )\n [c" = .error ⟨.unclosed .square, ⟨2, 2⟩⟩ := rfl
  exact ⟨pointsAt_of_parse mismatched, pointsAt_of_parse unclosed⟩

end Playbook.Script
