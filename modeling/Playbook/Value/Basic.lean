import Playbook.Decimal.Numeral
import Playbook.Event.Printer
import Playbook.Failure

/-! # Values

A value is what the coercion of an event gives. A number carries a scale, the count of decimal
places that its fixed-point form has. Two forms are derived from a value: a text that is shown, and
an encoded form that is handed to contracts.
-/

namespace Playbook

/-- A typed value. The keys of a map are distinct and in order of insertion. -/
inductive Value where
  | address (text : String)
  | number (val : Decimal) (scale : Int)
  | string (text : String)
  | bool (val : Bool)
  | nothing
  | event (content : Event)
  | list (items : List Value)
  | map (entries : List (String × Value))
deriving Repr, Inhabited

/-- The name of the kind of a value. -/
def Value.kind : Value → String
  | address .. => "address"
  | number .. => "number"
  | string .. => "string"
  | bool .. => "bool"
  | nothing => "nothing"
  | event .. => "event"
  | list .. => "list"
  | map .. => "map"

/-- The name of the type of a value. -/
def Value.typeName : Value → String
  | address .. => "AddressV"
  | number .. => "NumberV"
  | string .. => "StringV"
  | bool .. => "BoolV"
  | nothing => "NothingV"
  | event .. => "EventV"
  | list .. => "ListV"
  | map .. => "MapV"

/-- What passes between coercions, commands and handlers: a value, the handle of a contract,
nothing, or a thing that scripts have no use for, known by its type only. -/
inductive Datum where
  | value (content : Value)
  | contract (handle : Contract)
  | absent
  | foreign (typeName : String)
deriving Repr, Inhabited

namespace Datum

/-- The name of the type of a datum. -/
def typeName : Datum → String
  | value content => content.typeName
  | contract _ => "Contract"
  | absent => "NoneType"
  | foreign typeName => typeName

/-- The datum as an item of a list or a map, found under `key`. -/
def item (key : String) : Datum → Except InvalidValue Value
  | value content => .ok content
  | contract handle =>
    match typeOfKind? handle.kind with
    | none => .error ⟨["val", key], .contractItem handle.kind⟩
    | some typeName => .error ⟨["val", key, handle.kind], .contractAsValue typeName⟩
  | _ => .error ⟨["val", key], .foreignItem⟩
where
  /-- The name of the type of the values of a kind. -/
  typeOfKind? (kind : String) : Option String :=
    ([.address "", .number ⟨false, 0, 0⟩ 0, .string "", .bool false, .nothing, .event (.group []),
      .list [], .map []].find? fun (value : Value) => value.kind = kind).map Value.typeName

end Datum

namespace Value

/-- The list of items that are all values. -/
def ofItems (items : List Datum) : Except InvalidValue Value :=
  list <$> items.zipIdx.mapM fun (datum, index) => datum.item (toString index)

/-- The map of entries that are all values. -/
def ofEntries (entries : Table Datum) : Except InvalidValue Value :=
  map <$> entries.mapM fun (key, datum) => (datum.item key).map (key, ·)

/-- The number that a text denotes, with a scale. -/
def ofNumberText (text : String) (scale : Int) : Except Failure Value :=
  match Decimal.read? text with
  | some (.finite d) => .ok (.number d scale)
  | some .special => .error (.invalid ⟨["val"], .notFinite⟩)
  | none => .error (.arithmetic .invalidOperation)

/-- The truth value that a word stands for, whatever the case of its letters. -/
def ofTruthWord (word : String) : Except InvalidValue Value :=
  let word := word.map Char.toLower
  if word ∈ ["1", "on", "t", "true", "y", "yes"] then .ok (bool true)
  else if word ∈ ["0", "off", "f", "false", "n", "no"] then .ok (bool false)
  else .error ⟨["val"], .unclearTruth⟩

end Value
end Playbook
