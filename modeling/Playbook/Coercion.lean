import Playbook.Decimal.Numeral
import Playbook.World.Basic

/-! # Coercions

A coercion reads an event, in a world, as a value of one kind. The event may be missing: coercions
of values refuse that, while the lookup of a contract takes no notice of the event. Coercions only
read: what they give depends on nothing but the world and the event, they ask the collaborators of
the world for nothing, and they print nothing.

Numbers must fit into a word of 256 bits once they are scaled. They may be tagged with their scale,
as in (Exactly n) and (Exp n), and addresses with (Address X).
-/

namespace Playbook

/-- A reading of an event that may be missing. -/
abbrev Coercion := World → Option Event → Except Failure Datum

/-- The address that stands for none. -/
def zeroAddress : String := "0x" ++ String.ofList (List.replicate 40 '0')

/-- The scale of numbers that are sent as fixed-point mantissas. -/
def mantissaScale : Int := 18

/-- The first number that does not fit into a word. -/
def wordBound : Nat := Nat.pow 2 256

namespace Coerce

/-- The failure of an event that is not what was expected. -/
def mismatch {α : Type} (expected : String) (event : Option Event) : Except Failure α :=
  .error (.ofCause (.coercion expected (Event.renderOrNothing event)))

/-- The failure of a token that is not what was expected. -/
def tokenMismatch {α : Type} (expected token : String) : Except Failure α :=
  .error (.ofCause (.coercion expected token))

/-- The token of an atom. -/
def token (expected : String) : Option Event → Except Failure String
  | some (.atom token _) => .ok token
  | event => mismatch expected event

/-- Whether an event is an atom with a given word as its token, whatever the case. -/
def isWord (word : String) : Event → Bool
  | .atom token _ => Text.lower token == Text.lower word
  | .group _ => false

/-- Whether a token is an address in hexadecimal digits; one line break at its end is ignored. -/
def isAddressLiteral (token : String) : Bool :=
  match token.toList with
  | '0' :: 'x' :: digits =>
    let digits := Decimal.dropLineBreak digits
    !digits.isEmpty && digits.all isHexDigit
  | _ => false
where
  /-- The digits of base sixteen, in both cases. -/
  isHexDigit (c : Char) : Bool :=
    c.isDigit || ('a' ≤ c && c ≤ 'f') || ('A' ≤ c && c ≤ 'F')

/-- Whether a token means yes. -/
def isYes (token : String) : Bool := Text.lower token ∈ ["true", "yes"]

/-- Whether a token means no. -/
def isNo (token : String) : Bool := Text.lower token ∈ ["false", "no"]

/-- The number that a token denotes. -/
def decimal (token : String) : Except Failure Decimal :=
  (Decimal.ofToken? token).elim (tokenMismatch "number" token) .ok

/-- Whether a number, scaled, is a word: its magnitude is below the bound. Numbers with too many
digits before the point are told from words without being scaled. -/
def fitsWord (val : Decimal) (scale : Int) : Except Decimal.Signal Bool :=
  if !val.isZero && (Decimal.digitCount wordBound : Int) ≤ val.adjusted + scale then .ok false
  else (Decimal.wordLimits.scale val scale).map fun scaled => (scaled.truncate : Int) < wordBound

/-- The number that a token denotes, with a scale; it must fit into a word. -/
def scaledNumber (scale : Int) (token : String) : Except Failure Value := do
  let val ← decimal token
  if ← (fitsWord val scale).mapError .arithmetic then .ok (.number val scale)
  else tokenMismatch "number below 2**256" token

/-- The number of a pair that is tagged with its scale, or nothing if the items are no such pair. -/
def taggedNumber : List Event → Option (Except Failure Value)
  | [tag, inner] =>
    if isWord "Exactly" tag then some (token "number" (some inner) >>= scaledNumber 0)
    else if isWord "Exp" tag then some (token "number" (some inner) >>= scaledNumber mantissaScale)
    else none
  | _ => none

/-- The address that a token stands for: a literal, Zero, or the name of an account or a contract.
-/
def addressOfToken (world : World) (token : String) : Except Failure Value :=
  if isAddressLiteral token then .ok (.address token)
  else if Text.lower token = "zero" then .ok (.address zeroAddress)
  else (world.resolveAddress token).map .address |>.mapError .ofCause

/-- The address that an event stands for; (Address X) stands for what X stands for. -/
def addressOfEvent (world : World) : Event → Except Failure Value
  | .atom token _ => addressOfToken world token
  | .group [tag, inner] =>
    if isWord "Address" tag then addressOfEvent world inner
    else mismatch "address" (some (.group [tag, inner]))
  | .group items => mismatch "address" (some (.group items))

/-- The number that an event stands for; a bare token is given the scale. -/
def numberOfEvent (scale : Int) : Event → Except Failure Value
  | .atom token _ => scaledNumber scale token
  | .group items => (taggedNumber items).getD (mismatch "number" (some (.group items)))

/-- Whether items are an address tag and one more item. -/
def isAddressPair : List Event → Bool
  | [tag, _] => isWord "Address" tag
  | _ => false

/-- The value of an untyped atom: quoted, a string; else a number, an address, a truth value or a
string, whichever fits first. -/
def valueOfToken (token : String) (quoted : Bool) : Except Failure Value :=
  if quoted then .ok (.string token)
  else if Decimal.isNumeral token then scaledNumber 0 token
  else if isAddressLiteral token then .ok (.address token)
  else if isYes token then .ok (.bool true)
  else if isNo token then .ok (.bool false)
  else .ok (.string token)

mutual

/-- The value of an untyped event: a tagged pair is what its tag says, any other group a list. -/
def valueOfEvent (world : World) : Event → Except Failure Value
  | .atom token quoted => valueOfToken token quoted
  | .group items =>
    if isAddressPair items then addressOfEvent world (.group items)
    else match taggedNumber items with
      | some result => result
      | none => (valuesOfEvents world items).map .list

/-- The values of untyped events. -/
def valuesOfEvents (world : World) : List Event → Except Failure (List Value)
  | [] => .ok []
  | item :: items => do return (← valueOfEvent world item) :: (← valuesOfEvents world items)

end

/-- The coercion that reads every event that is there as a value. -/
def ofEvent (expected : String) (read : World → Event → Except Failure Value) : Coercion
  | _, none => mismatch expected none
  | world, some event => (read world event).map .value

/-- What is read of an event is a value, and the event was there. -/
theorem ofEvent_eq_ok {expected : String} {read : World → Event → Except Failure Value}
    {world : World} {event : Option Event} {datum : Datum}
    (reads : ofEvent expected read world event = .ok datum) :
    ∃ content value, event = some content ∧ read world content = .ok value ∧
      datum = .value value := by
  cases event with
  | none => cases reads
  | some content =>
    rw [ofEvent] at reads
    cases found : read world content with
    | error failure =>
      rw [found] at reads
      cases reads
    | ok value =>
      rw [found] at reads
      exact ⟨content, value, rfl, found, (Except.ok.inj reads).symm⟩

/-- Reads addresses. -/
def address : Coercion := ofEvent "address" addressOfEvent

/-- Reads numbers of scale zero. -/
def number : Coercion := ofEvent "number" fun _ => numberOfEvent 0

/-- Reads numbers with a fixed-point mantissa. -/
def mantissa : Coercion := ofEvent "number" fun _ => numberOfEvent mantissaScale

/-- Reads whole numbers that are not negative. -/
def count : Coercion := ofEvent "number" fun _ event => do
  match ← numberOfEvent 0 event with
  | .number val scale =>
    if val.isBelowZero || !val.isWhole then mismatch "non-negative integer" (some event)
    else .ok (.number val scale)
  | other => .ok other

/-- Reads any token as it stands. -/
def string : Coercion
  | _, event => (token "string" event).map fun token => .value (.string token)

/-- Reads true and yes, false and no. -/
def bool : Coercion
  | _, event => do
    let token ← token "bool" event
    if isYes token then .ok (.value (.bool true))
    else if isNo token then .ok (.value (.bool false))
    else tokenMismatch "bool" token

/-- Keeps an event as it is. -/
def event : Coercion := ofEvent "event" fun _ event => .ok (.event event)

/-- Reads untyped events. -/
def untyped : Coercion := ofEvent "value" valueOfEvent

/-- Finds the contract of a name; the event does not matter. -/
def contract (name : String) : Coercion
  | world, _ => (world.resolveContract name).map .contract |>.mapError .ofCause

/-- Reads a group item by item. -/
def list (item : Coercion) : Coercion
  | world, some (.group items) => do
    let data ← items.mapM fun event => item world (some event)
    (Value.ofItems data).map .value |>.mapError .invalid
  | _, event => mismatch "list" event

/-- Reads the pairs of a group, each a key and an item, into the entries read before. -/
def entries (item : Coercion) (world : World) :
    Table Datum → List Event → Except Failure (Table Datum)
  | read, [] => .ok read
  | read, .group [.atom key quoted, event] :: rest =>
    if read.contains key then mismatch "unique key" (some (.group [.atom key quoted, event]))
    else do entries item world (read ++ [(key, ← item world (some event))]) rest
  | _, pair :: _ => mismatch "(key value) pair" (some pair)

/-- Reads a group of pairs of a key and an item; keys must differ. -/
def map (item : Coercion) : Coercion
  | world, some (.group items) => do
    let read ← entries item world [] items
    (Value.ofEntries read).map .value |>.mapError .invalid
  | _, event => mismatch "map" event

end Coerce
end Playbook
