import Playbook.Text.Printable

/-! # Quoted text

Messages show a text between quotation marks, on one line and in printable characters only. Single
marks are used unless the text holds one and no double mark. The mark, the backslash, the line
break, the carriage return and the tab have short escapes; every other character that is not
printable is written by its code point in two, four or eight hexadecimal digits.
-/

namespace Playbook.Text

/-- The hexadecimal digits of a number, most significant first, filled with zeros to `width`. -/
def hexadecimal : (width : Nat) → Nat → List Char
  | 0, _ => []
  | width + 1, n => hexadecimal width (n / 16) ++ [Nat.digitChar (n % 16)]

/-- A character as it is written between two marks `mark`. -/
def escape (mark c : Char) : List Char :=
  if c = mark ∨ c = '\\' then ['\\', c]
  else if c = '\n' then ['\\', 'n']
  else if c = '\r' then ['\\', 'r']
  else if c = '\t' then ['\\', 't']
  else if isPrintable c then [c]
  else if c.toNat < 0x100 then '\\' :: 'x' :: hexadecimal 2 c.toNat
  else if c.toNat < 0x10000 then '\\' :: 'u' :: hexadecimal 4 c.toNat
  else '\\' :: 'U' :: hexadecimal 8 c.toNat

/-- The mark put around a text. -/
def quotationMark (text : List Char) : Char :=
  if '\'' ∈ text ∧ '"' ∉ text then '"' else '\''

/-- A text between quotation marks. -/
def quote (text : String) : String :=
  let mark := quotationMark text.toList
  String.ofList (mark :: text.toList.flatMap (escape mark) ++ [mark])

/-- A character between quotation marks. -/
def quoteChar (c : Char) : String := quote (String.singleton c)

end Playbook.Text
