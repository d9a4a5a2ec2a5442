import Playbook.Json.Basic

/-! # Reading JSON

A JSON text is read from left to right, and the first fault is reported. Beyond the standard, the
numbers NaN, Infinity and -Infinity are accepted. A text may also exceed a limit: on the digits of
an integer, or on the containers that lie in each other.
-/

namespace Playbook.Json

/-- What is left of a text, and how much has been read. -/
structure Cursor where
  offset : Nat
  rest : List Char

namespace Cursor

/-- The cursor `count` characters further on. -/
def advance (cursor : Cursor) (count : Nat) : Cursor :=
  ⟨cursor.offset + count, cursor.rest.drop count⟩

/-- Whether a character is white space between tokens. -/
def isSpace (c : Char) : Bool := c = ' ' || c = '\t' || c = '\n' || c = '\r'

/-- The cursor after white space. -/
def skipSpace (cursor : Cursor) : Cursor := cursor.advance (cursor.rest.takeWhile isSpace).length

/-- A fault at the cursor. -/
def fail {α : Type} (cursor : Cursor) (reason : Misspelling) : Except Fault α :=
  .error (.misspelled reason cursor.offset)

end Cursor

/-- The value of a hexadecimal digit. -/
def hexValue? (c : Char) : Option Nat :=
  if c.isDigit then some (c.toNat - '0'.toNat)
  else if 'a' ≤ c ∧ c ≤ 'f' then some (c.toNat - 'a'.toNat + 10)
  else if 'A' ≤ c ∧ c ≤ 'F' then some (c.toNat - 'A'.toNat + 10)
  else none

/-- The number written by four hexadecimal digits that are not the end of the text. -/
def unit? (text : List Char) : Option Nat :=
  if text.length < 5 then none
  else (text.take 4).foldlM (fun value c => (hexValue? c).map (16 * value + ·)) 0

/-- Whether a code unit is the first of a pair. -/
def isHighUnit (unit : Nat) : Bool := 0xd800 ≤ unit && unit < 0xdc00

/-- Whether a code unit is the second of a pair. -/
def isLowUnit (unit : Nat) : Bool := 0xdc00 ≤ unit && unit < 0xe000

/-- The character of a code unit; the replacement character for a unit that stands for none. -/
def charOfUnit (unit : Nat) : Char :=
  if isHighUnit unit || isLowUnit unit then '\ufffd' else Char.ofNat unit

/-- The character of a pair of code units. -/
def charOfPair (high low : Nat) : Char :=
  Char.ofNat (0x10000 + (high - 0xd800) * 0x400 + (low - 0xdc00))

/-- Reads what follows a backslash and a u: the character, and how many characters write it. -/
def readUnicodeEscape (cursor : Cursor) : Except Fault (Char × Nat) :=
  match unit? cursor.rest with
  | none => .error (.misspelled .badUnicodeEscape (cursor.offset - 1))
  | some high =>
    match isHighUnit high, cursor.rest.drop 4 with
    | true, '\\' :: 'u' :: rest =>
      if rest.length < 5 then .ok (charOfUnit high, 4)
      else match unit? rest with
        | none => .error (.misspelled .badUnicodeEscape (cursor.offset + 5))
        | some low =>
            .ok (if isLowUnit low then (charOfPair high low, 10) else (charOfUnit high, 4))
    | _, _ => .ok (charOfUnit high, 4)

/-- The character of an escape by one letter. -/
def simpleEscape? : Char → Option Char
  | '"' => some '"'
  | '\\' => some '\\'
  | '/' => some '/'
  | 'b' => some '\x08'
  | 'f' => some '\x0c'
  | 'n' => some '\n'
  | 'r' => some '\r'
  | 't' => some '\t'
  | _ => none

/-- Reads the rest of a string that started at `start`; `read` is kept backwards. -/
def readString (start : Nat) (read : List Char) (cursor : Cursor) :
    Except Fault (String × Cursor) :=
  match _here : cursor.rest with
  | [] => .error (.misspelled .unterminatedString start)
  | '"' :: _ => .ok (String.ofList read.reverse, cursor.advance 1)
  | ['\\'] => .error (.misspelled .unterminatedString start)
  | '\\' :: 'u' :: _ =>
    match readUnicodeEscape (cursor.advance 2) with
    | .error fault => .error fault
    | .ok (c, width) => readString start (c :: read) (cursor.advance (2 + width))
  | '\\' :: letter :: _ =>
    match simpleEscape? letter with
    | none => cursor.fail .unknownEscape
    | some c => readString start (c :: read) (cursor.advance 2)
  | c :: _ =>
    if c.toNat < 0x20 then cursor.fail .controlCharacter
    else readString start (c :: read) (cursor.advance 1)
termination_by cursor.rest.length
decreasing_by all_goals simp [Cursor.advance, _here]; try omega

/-- The digits a text starts with. -/
def digits (text : List Char) : List Char := text.takeWhile Char.isDigit

/-- The whole part of a number: no further digit follows a zero at its start. -/
def wholePart (text : List Char) : List Char :=
  match text with
  | '0' :: _ => ['0']
  | _ => digits text

/-- The part of a number from the point on, if a digit follows the point. -/
def fractionPart : List Char → List Char
  | '.' :: rest => if (digits rest).isEmpty then [] else '.' :: digits rest
  | _ => []

/-- The exponent of a number, if it has a digit. -/
def exponentPart : List Char → List Char
  | e :: rest =>
    if e = 'e' ∨ e = 'E' then
      let sign := match rest with
        | '-' :: _ | '+' :: _ => rest.take 1
        | _ => []
      let power := digits (rest.drop sign.length)
      if power.isEmpty then [] else e :: sign ++ power
    else []
  | [] => []

/-- The number a text starts with. -/
def number? (text : List Char) : Option (List Char) :=
  let sign := match text with
    | '-' :: _ => ['-']
    | _ => []
  let whole := wholePart (text.drop sign.length)
  if whole.isEmpty then none
  else
    let integer := sign ++ whole
    let fraction := fractionPart (text.drop integer.length)
    some (integer ++ fraction ++ exponentPart (text.drop (integer.length + fraction.length)))

/-- The words that are values. -/
def words : List (String × JsonValue) :=
  [("null", .null), ("true", .bool true), ("false", .bool false), ("NaN", .number "NaN"),
    ("Infinity", .number "Infinity"), ("-Infinity", .number "-Infinity")]

/-- The number of digits of an integer; numbers with a fraction or an exponent are no integers. -/
def integerDigits? (numeral : List Char) : Option Nat :=
  let digits := numeral.filter (· ≠ '-')
  if digits.all Char.isDigit then some digits.length else none

/-- Accepts a number unless it is an integer of too many digits. -/
def checkNumber (numeral : List Char) : Except Fault JsonValue :=
  match integerDigits? numeral with
  | none => .ok (.number (String.ofList numeral))
  | some count =>
    if count ≤ mostDigits then .ok (.number (String.ofList numeral))
    else .error (.beyond (.digits count))

/-- Reads a word or a number. -/
def readScalar (cursor : Cursor) : Except Fault (JsonValue × Cursor) :=
  match words.find? fun (word, _) => word.toList.isPrefixOf cursor.rest with
  | some (word, value) => .ok (value, cursor.advance word.length)
  | none =>
    match number? cursor.rest with
    | some numeral => (checkNumber numeral).map (·, cursor.advance numeral.length)
    | none => cursor.fail .noValue

mutual

/-- Reads a value that starts at the cursor and may hold containers `room` deep. The fuel bounds the
number of values and separators. -/
def readValue : (fuel room : Nat) → Cursor → Except Fault (JsonValue × Cursor)
  | 0, _, cursor => cursor.fail .noValue
  | fuel + 1, room, cursor =>
    match cursor.rest, room with
    | '"' :: _, _ => do
      let (text, cursor) ← readString cursor.offset [] (cursor.advance 1)
      return (.string text, cursor)
    | '[' :: _, 0 => .error (.beyond (.nesting .array))
    | '[' :: _, room + 1 =>
      let inside := (cursor.advance 1).skipSpace
      match inside.rest with
      | ']' :: _ => .ok (.array [], inside.advance 1)
      | _ => readItems fuel room [] inside
    | '\x7b' :: _, 0 => .error (.beyond (.nesting .object))
    | '\x7b' :: _, room + 1 =>
      let inside := (cursor.advance 1).skipSpace
      match inside.rest with
      | '\x7d' :: _ => .ok (.object [], inside.advance 1)
      | _ => readMembers fuel room [] inside
    | _, _ => readScalar cursor

/-- Reads the items of an array; those before the cursor are kept backwards. -/
def readItems : (fuel room : Nat) → List JsonValue → Cursor → Except Fault (JsonValue × Cursor)
  | 0, _, _, cursor => cursor.fail .noValue
  | fuel + 1, room, read, cursor => do
    let (item, cursor) ← readValue fuel room cursor
    let cursor := cursor.skipSpace
    match cursor.rest with
    | ']' :: _ => return (.array (item :: read).reverse, cursor.advance 1)
    | ',' :: _ => readItems fuel room (item :: read) (cursor.advance 1).skipSpace
    | _ => cursor.fail .noComma

/-- Reads the members of an object after those read before the cursor. -/
def readMembers : (fuel room : Nat) → Table JsonValue → Cursor → Except Fault (JsonValue × Cursor)
  | 0, _, _, cursor => cursor.fail .noValue
  | fuel + 1, room, read, cursor =>
    match cursor.rest with
    | '"' :: _ => do
      let (key, cursor) ← readString cursor.offset [] (cursor.advance 1)
      let cursor := cursor.skipSpace
      match cursor.rest with
      | ':' :: _ =>
        let (value, cursor) ← readValue fuel room (cursor.advance 1).skipSpace
        let read := read.set key value
        let cursor := cursor.skipSpace
        match cursor.rest with
        | '\x7d' :: _ => return (.object read, cursor.advance 1)
        | ',' :: _ => readMembers fuel room read (cursor.advance 1).skipSpace
        | _ => cursor.fail .noComma
      | _ => cursor.fail .noColon
    | _ => cursor.fail .noKey

end

/-- The value that a text denotes. -/
def parse (text : List Char) : Except Fault JsonValue := do
  if text.head? = some '\ufeff' then .error (.misspelled .byteOrderMark 0)
  let (value, cursor) ← readValue (2 * text.length + 2) deepestNesting (Cursor.mk 0 text).skipSpace
  let cursor := cursor.skipSpace
  if cursor.rest.isEmpty then return value else cursor.fail .extraData

end Playbook.Json
