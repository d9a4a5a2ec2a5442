import Playbook.Value.Basic

/-! # Shown form of values

The shown form is meant for people. A number is rounded to 28 digits and written in positional
notation without trailing zeros; a map is written in the order of its keys.
-/

namespace Playbook

/-- A number as it is shown: fitted to the limits, positional, zero as one digit. -/
def Decimal.render (limits : Limits) (d : Decimal) : Except Signal String :=
  (limits.normalize d).map fun normal => if normal.isZero then "0" else normal.positional

/-- Sorts entries by their keys. -/
def sortEntries {α : Type} (entries : List (String × α)) : List (String × α) :=
  entries.mergeSort fun left right => decide (left.1 ≤ right.1)

namespace Value

mutual

/-- The shown form of a value. -/
def render : Value → Except Decimal.Signal String
  | .address text => .ok text
  | .number val _ => val.render Decimal.shownLimits
  | .string text => .ok text
  | .bool val => .ok (if val then "True" else "False")
  | .nothing => .ok ""
  | .event content => .ok content.render
  | .list items => do return "[" ++ ", ".intercalate (← renderItems items) ++ "]"
  | .map entries => do
    let shown := (sortEntries (← renderEntries entries)).map fun (key, text) => key ++ ": " ++ text
    return "\x7b" ++ ", ".intercalate shown ++ "\x7d"

/-- The shown forms of the items of a list. -/
def renderItems : List Value → Except Decimal.Signal (List String)
  | [] => .ok []
  | item :: items => do return (← item.render) :: (← renderItems items)

/-- The shown forms of the entries of a map, with their keys. -/
def renderEntries : List (String × Value) → Except Decimal.Signal (List (String × String))
  | [] => .ok []
  | (key, entry) :: entries => do return (key, ← entry.render) :: (← renderEntries entries)

end

end Value
end Playbook
