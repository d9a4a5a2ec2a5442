import Playbook.World.Record

/-! # JSON documents

The value that a JSON text denotes, and what can be wrong with such a text.
-/

namespace Playbook

/-- A JSON value. A number is kept as it is written; a key that is repeated in an object keeps its
first place and its last value. -/
inductive JsonValue where
  | null
  | bool (val : Bool)
  | number (numeral : String)
  | string (text : String)
  | array (items : List JsonValue)
  | object (members : List (String × JsonValue))
deriving Repr, Inhabited

namespace Json

/-- What is wrong with a JSON text. -/
inductive Misspelling where
  | byteOrderMark
  | noValue
  | noKey
  | noColon
  | noComma
  | extraData
  | controlCharacter
  | unterminatedString
  | unknownEscape
  | badUnicodeEscape
deriving DecidableEq, Repr

/-- The wording of a fault. -/
def Misspelling.message : Misspelling → String
  | byteOrderMark => "Unexpected UTF-8 BOM (decode using utf-8-sig)"
  | noValue => "Expecting value"
  | noKey => "Expecting property name enclosed in double quotes"
  | noColon => "Expecting ':' delimiter"
  | noComma => "Expecting ',' delimiter"
  | extraData => "Extra data"
  | controlCharacter => "Invalid control character at"
  | unterminatedString => "Unterminated string starting at"
  | unknownEscape => "Invalid \\escape"
  | badUnicodeEscape => "Invalid \\uXXXX escape"

/-- The two kinds of values that hold others. -/
inductive Container where
  | array
  | object
deriving DecidableEq, Repr

/-- The name of a kind of container. -/
def Container.name : Container → String
  | array => "array"
  | object => "object"

/-- What makes a JSON text too large to be read, well formed or not. -/
inductive Limit where
  /-- An integer has more digits than can be read. -/
  | digits (count : Nat)
  /-- A container lies in too many others. -/
  | nesting (innermost : Container)
deriving DecidableEq, Repr

/-- The number of digits that an integer may have. -/
def mostDigits : Nat := 4300

/-- The number of containers that may lie in each other. -/
def deepestNesting : Nat := 990

/-- The wording of a limit. -/
def Limit.message : Limit → String
  | digits count =>
    "Exceeds the limit (" ++ toString mostDigits ++
      " digits) for integer string conversion: value has " ++
      toString count ++ " digits; use sys.set_int_max_str_digits() to increase the limit"
  | nesting innermost =>
    "maximum recursion depth exceeded while decoding a JSON " ++ innermost.name ++
      " from a unicode string"

/-- A fault and the number of characters before it, or a limit that the text exceeds. -/
inductive Fault where
  | misspelled (reason : Misspelling) (offset : Nat)
  | beyond (limit : Limit)
deriving DecidableEq, Repr

/-- The wording of a fault at an offset of a text, with its line and column, counted from one. -/
def Misspelling.messageAt (reason : Misspelling) (offset : Nat) (text : List Char) : String :=
  let before := text.take offset
  let line := before.count '\n' + 1
  let column := (before.reverse.takeWhile (· ≠ '\n')).length + 1
  reason.message ++ ": line " ++ toString line ++ " column " ++ toString column ++
    " (char " ++ toString offset ++ ")"

end Json
end Playbook
