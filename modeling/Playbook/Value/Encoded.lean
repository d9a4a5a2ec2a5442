import Playbook.Text.Quoted
import Playbook.Value.Printer

/-! # Encoded form of values

The encoded form is what contracts receive. A number is scaled to an integer, a half rounded away
from zero; a number that has no such integer within 120 digits is refused.
-/

namespace Playbook

/-- A plain argument of a call. The keys of a map are in order of insertion. -/
inductive Encoded where
  | null
  | bool (val : Bool)
  | int (val : Int)
  | str (text : String)
  | list (items : List Encoded)
  | map (entries : List (String × Encoded))
deriving Repr, Inhabited

namespace Encoded

mutual

/-- The text of an argument inside of another. -/
def innerText : Encoded → String
  | .null => "None"
  | .bool val => if val then "True" else "False"
  | .int val => toString val
  | .str text => Text.quote text
  | .list items => "[" ++ ", ".intercalate (innerTexts items) ++ "]"
  | .map entries => "\x7b" ++ ", ".intercalate (entryTexts entries) ++ "\x7d"

/-- The texts of the items of a list. -/
def innerTexts : List Encoded → List String
  | [] => []
  | item :: items => item.innerText :: innerTexts items

/-- The texts of the entries of a map. -/
def entryTexts : List (String × Encoded) → List String
  | [] => []
  | (key, entry) :: entries => (Text.quote key ++ ": " ++ entry.innerText) :: entryTexts entries

end

/-- The text of an argument; a string stands for itself. -/
def text : Encoded → String
  | .str text => text
  | other => other.innerText

end Encoded

/-- The integer that a number with a scale stands for. -/
def Decimal.encode (val : Decimal) (scale : Int) : Except Failure Int :=
  match encodedLimits.scale val scale >>= encodedLimits.toInteger with
  | .ok encoded => .ok encoded
  | .error _ =>
    match val.render encodedLimits with
    | .ok shown => .error (.ofCause (.coercion "encodable number" shown))
    | .error signal => .error (.arithmetic signal)

namespace Value

mutual

/-- The encoded form of a value. -/
def encode : Value → Except Failure Encoded
  | .address text => .ok (.str text)
  | .number val scale => (val.encode scale).map .int
  | .string text => .ok (.str text)
  | .bool val => .ok (.bool val)
  | .nothing => .ok .null
  | .event content => .ok (.str content.render)
  | .list items => (encodeItems items).map .list
  | .map entries => (encodeEntries entries).map .map

/-- The encoded forms of the items of a list. -/
def encodeItems : List Value → Except Failure (List Encoded)
  | [] => .ok []
  | item :: items => do return (← item.encode) :: (← encodeItems items)

/-- The encoded forms of the entries of a map. -/
def encodeEntries : List (String × Value) → Except Failure (List (String × Encoded))
  | [] => .ok []
  | (key, entry) :: entries => do return (key, ← entry.encode) :: (← encodeEntries entries)

end

end Value
end Playbook
