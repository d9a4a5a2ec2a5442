import Playbook.Text.Quoted

/-! # Malformed scripts

A text or a statement that has the wrong shape is refused with the reason and a position. Positions
count lines and columns from one, columns in characters.
-/

namespace Playbook.Script

/-- A place in a script. -/
structure Position where
  line : Nat := 1
  column : Nat := 1
deriving DecidableEq, Repr, Inhabited

/-- The place after a character that stands at `position`. -/
def Position.after (position : Position) (c : Char) : Position :=
  if c = '\n' then ⟨position.line + 1, 1⟩ else ⟨position.line, position.column + 1⟩

/-- The two kinds of brackets around a group. -/
inductive Bracket where
  | round
  | square
deriving DecidableEq, Repr

namespace Bracket

/-- The character that opens a group. -/
def opener : Bracket → Char
  | round => '('
  | square => '['

/-- The character that closes a group. -/
def closer : Bracket → Char
  | round => ')'
  | square => ']'

/-- The bracket that a character opens. -/
def ofOpener? (c : Char) : Option Bracket := [round, square].find? (·.opener = c)

/-- The bracket that a character closes. -/
def ofCloser? (c : Char) : Option Bracket := [round, square].find? (·.closer = c)

end Bracket

/-- What is wrong with the shape of a script or a statement. -/
inductive Malformation where
  /-- A string is not closed on its line. -/
  | unterminatedString
  /-- A backslash in a string precedes a character that has no escape, or the end of the text. -/
  | invalidEscape (found : Option Char)
  /-- A bracket closes no group. -/
  | unmatched (found : Bracket)
  /-- A bracket of the other kind closes a group. -/
  | mismatched (expected found : Bracket)
  /-- A group is still open at the end of the text. -/
  | unclosed (opened : Bracket)
  /-- One statement was asked for, and the text holds more. -/
  | severalStatements
  /-- A statement has no items. -/
  | emptyStatement
  /-- A statement ends where the name of a command is due. -/
  | missingCommand (subsystem : Option String)
  /-- A reason given in words. -/
  | stated (reason : String)
deriving DecidableEq, Repr

/-- The wording of a reason. -/
def Malformation.message : Malformation → String
  | unterminatedString => "unterminated string"
  | invalidEscape found => "invalid escape \\" ++ String.ofList found.toList
  | unmatched found => "unmatched " ++ Text.quoteChar found.closer
  | mismatched expected found =>
    "expected " ++ Text.quoteChar expected.closer ++ " but found " ++ Text.quoteChar found.closer
  | unclosed opened => "unclosed " ++ Text.quoteChar opened.opener
  | severalStatements => "expected a single statement"
  | emptyStatement => "empty statement"
  | missingCommand none => "expected a command"
  | missingCommand (some subsystem) =>
    if subsystem.isEmpty then "expected a command" else "expected a command after " ++ subsystem
  | stated reason => reason

/-- A malformation and where it was found. -/
structure Malformed where
  reason : Malformation
  position : Position
deriving DecidableEq, Repr

/-- The reason with its position. -/
def Malformed.message (malformed : Malformed) : String :=
  malformed.reason.message ++ " at line " ++ toString malformed.position.line ++ ", column " ++
    toString malformed.position.column

end Playbook.Script
