import Playbook.Decimal.Basic
import Playbook.Text.Characters

/-! # Numerals

A numeral is a decimal number as it is written: an optional sign, digits with at most one point
among or around them, and an optional power of ten. Digits of any script are accepted. A numeral
denotes a decimal number unless its exponent is out of range.

A token may have one line break after its numeral. A freer reading ignores blanks around a numeral
and underscores anywhere, but no line break among them.
-/

namespace Playbook.Decimal

/-- The parts of a numeral; `places` counts the digits after the point. -/
structure Numeral where
  negative : Bool
  digits : List Nat
  places : Nat
  power : Int
deriving DecidableEq, Repr

namespace Numeral

/-- The values of the digits a text starts with, and the rest of the text. -/
def takeDigits : List Char → List Nat × List Char
  | [] => ([], [])
  | c :: rest =>
    match Text.digitValue? c with
    | some value => let (values, after) := takeDigits rest; (value :: values, after)
    | none => ([], c :: rest)

/-- The number that digits write. -/
def natOfDigits (digits : List Nat) : Nat := digits.foldl (fun value digit => 10 * value + digit) 0

/-- Reads an optional sign; the result says whether it is a minus. -/
def takeSign : List Char → Bool × List Char
  | '-' :: rest => (true, rest)
  | '+' :: rest => (false, rest)
  | text => (false, text)

/-- Reads the digits around an optional point: those before it, those after it, and the rest. -/
def takeMantissa? (text : List Char) : Option (List Nat × List Nat × List Char) :=
  match takeDigits text with
  | ([], '.' :: rest) =>
    match takeDigits rest with
    | ([], _) => none
    | (fraction, rest) => some ([], fraction, rest)
  | ([], _) => none
  | (whole, '.' :: rest) => let (fraction, rest) := takeDigits rest; some (whole, fraction, rest)
  | (whole, rest) => some (whole, [], rest)

/-- Reads the power of ten that ends a numeral. -/
def power? : List Char → Option Int
  | [] => some 0
  | c :: rest =>
    if c = 'e' ∨ c = 'E' then
      let (negative, rest) := takeSign rest
      match takeDigits rest with
      | ([], _) => none
      | (digits, []) =>
        some (if negative then -(natOfDigits digits : Int) else natOfDigits digits)
      | _ => none
    else none

/-- Reads a numeral. -/
def ofText? (text : List Char) : Option Numeral := do
  let (negative, text) := takeSign text
  let (whole, fraction, rest) ← takeMantissa? text
  return { negative, digits := whole ++ fraction, places := fraction.length,
           power := ← power? rest }

/-- The largest exponent of the first digit. -/
def maxAdjusted : Int := 999999999999999999

/-- The smallest exponent. -/
def minExponent : Int := -1999999999999999997

/-- The number that a numeral denotes, if its exponent is in range. -/
def toDecimal? (numeral : Numeral) : Option Decimal :=
  let d : Decimal :=
    { negative := numeral.negative
      coefficient := natOfDigits numeral.digits
      exponent := numeral.power - numeral.places }
  if d.adjusted ≤ maxAdjusted ∧ minExponent ≤ d.exponent then some d else none

end Numeral

/-- A text without the line break at its end, if there is one. -/
def dropLineBreak (text : List Char) : List Char :=
  if text.getLast? = some '\n' then text.dropLast else text

/-- The numeral of a token. -/
def numeral? (token : String) : Option Numeral := Numeral.ofText? (dropLineBreak token.toList)

/-- Whether a token is a numeral. -/
def isNumeral (token : String) : Bool := (numeral? token).isSome

/-- The number that a token denotes. -/
def ofToken? (token : String) : Option Decimal := numeral? token >>= Numeral.toDecimal?

/-- What a text can denote beyond numbers: an infinity or something that is no number. -/
inductive Reading where
  | finite (d : Decimal)
  | special
deriving DecidableEq, Repr

/-- Whether an unsigned text in lower case names an infinity or something that is no number. -/
def isSpecial (text : List Char) : Bool :=
  text == "inf".toList || text == "infinity".toList || isNaN text
where
  /-- The word for what is no number, quiet or signalling, with digits after it. -/
  isNaN : List Char → Bool
    | 'n' :: 'a' :: 'n' :: rest | 's' :: 'n' :: 'a' :: 'n' :: rest => rest.all Text.isDecimalDigit
    | _ => false

/-- Reads a text more freely than a numeral: blanks around it and underscores in it are ignored. -/
def read? (text : String) : Option Reading :=
  let text := (Text.strip text.toList).filter (· ≠ '_')
  match Numeral.ofText? text with
  | some numeral => numeral.toDecimal?.map .finite
  | none => if isSpecial ((Numeral.takeSign text).2.map Char.toLower) then some .special else none

end Playbook.Decimal
