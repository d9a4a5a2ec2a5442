/-! # Events

An event is the parsed form of a piece of script: an atom, which is one token, or a group of events.
A statement is the sequence of events between two statement ends, with the line it starts on.
-/

namespace Playbook

/-- A piece of script. A quoted atom stood between quotation marks. -/
inductive Event where
  | atom (token : String) (quoted : Bool)
  | group (items : List Event)
deriving Repr, Inhabited

/-- A statement of a script; the line is absent where a statement was not read from a text. -/
structure Statement where
  items : List Event
  line : Option Nat := none
deriving Repr, Inhabited

namespace Event

/-- A bare token. -/
abbrev bare (token : String) : Event := .atom token false

/-- A token between quotation marks. -/
abbrev quoted (token : String) : Event := .atom token true

mutual

/-- Equality of events, quotation included. -/
def decEq : (left right : Event) → Decidable (left = right)
  | .atom token quoted, .atom token' quoted' =>
    if same : token = token' ∧ quoted = quoted' then
      .isTrue (by rw [same.1, same.2])
    else .isFalse (by intro equal; cases equal; exact same ⟨rfl, rfl⟩)
  | .atom .., .group _ => .isFalse (by intro equal; cases equal)
  | .group _, .atom .. => .isFalse (by intro equal; cases equal)
  | .group items, .group items' =>
    match decEqItems items items' with
    | .isTrue same => .isTrue (by rw [same])
    | .isFalse differ => .isFalse (by intro equal; cases equal; exact differ rfl)

/-- Equality of sequences of events. -/
def decEqItems : (left right : List Event) → Decidable (left = right)
  | [], [] => .isTrue rfl
  | [], _ :: _ => .isFalse (by intro equal; cases equal)
  | _ :: _, [] => .isFalse (by intro equal; cases equal)
  | item :: items, item' :: items' =>
    match decEq item item', decEqItems items items' with
    | .isTrue same, .isTrue rest => .isTrue (by rw [same, rest])
    | .isFalse differ, _ => .isFalse (by intro equal; cases equal; exact differ rfl)
    | _, .isFalse differ => .isFalse (by intro equal; cases equal; exact differ rfl)

end

instance : DecidableEq Event := decEq

mutual

/-- The event with all quotation forgotten: what two events with the same tokens share. -/
def plain : Event → Event
  | .atom token _ => bare token
  | .group items => .group (plainItems items)

/-- The events of a sequence with all quotation forgotten. -/
def plainItems : List Event → List Event
  | [] => []
  | item :: items => item.plain :: plainItems items

end

mutual

/-- The number of atoms and groups of an event. -/
def size : Event → Nat
  | .atom .. => 1
  | .group items => sizeOfItems items + 1

/-- The number of atoms and groups of a sequence. -/
def sizeOfItems : List Event → Nat
  | [] => 0
  | item :: items => item.size + sizeOfItems items

end

/-- Items are made plain one by one. -/
@[simp] theorem plainItems_eq_map (items : List Event) : plainItems items = items.map plain := by
  induction items with
  | nil => rfl
  | cons item items ih => simp [plainItems, ih]

/-- Every event has a size above zero. -/
theorem size_pos (event : Event) : 0 < event.size := by
  cases event <;> simp [size]

end Event
end Playbook
