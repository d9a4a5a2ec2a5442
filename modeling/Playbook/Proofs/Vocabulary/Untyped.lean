import Playbook.Proofs.Command.Argument
import Playbook.Proofs.Number.Coerced
import Playbook.Proofs.Play.Ends
import Playbook.Proofs.Vocabulary.Core

/-! # Untyped values

An event without a declared type is read by its shape. What it is read as is what the coercion of
that type makes of it: shape and type decide alike on numbers, addresses, truth values and strings.
A group that is no tagged pair is read item by item, as the coercion of lists does.
-/

namespace Playbook

/-- Items are a pair under one of the tags of addresses and numbers, whatever the case. -/
def IsTaggedPair (items : List Event) : Prop :=
  ∃ tag inner, items = [tag, inner] ∧ ∃ word ∈ ["Address", "Exactly", "Exp"], Coerce.isWord word tag

namespace Coerce

/-- The coercion of its own type reads the value of an event. A list is read item by item, from
items that are no tagged pair. -/
def AgreesWithTyped (world : World) (event : Event) : Value → Prop
  | .number val scale =>
    number world (some event) = .ok (.value (.number val scale)) ∧
      ∀ items, event = .group items →
        mantissa world (some event) = .ok (.value (.number val scale))
  | .address text => address world (some event) = .ok (.value (.address text))
  | .bool val => bool world (some event) = .ok (.value (.bool val))
  | .string text => string world (some event) = .ok (.value (.string text))
  | .list values => ∃ items, event = .group items ∧ ¬IsTaggedPair items ∧
      List.Forall₂ (fun item value => untyped world (some item) = .ok (.value value)) items values ∧
      list untyped world (some event) = .ok (.value (.list values))
  | .nothing | .event _ | .map _ => False

variable {world : World}

/-- What is read of an event is what the coercion of values gives for it. -/
theorem ofEvent_of_read {expected : String} {read : World → Event → Except Failure Value}
    {event : Event} {value : Value} (reads : read world event = .ok value) :
    ofEvent expected read world (some event) = .ok (.value value) := by
  rw [ofEvent, reads]
  rfl

/-! ### Atoms -/

/-- An untyped atom is read as a typed coercion reads it. -/
theorem agreesWithTyped_valueOfToken (world : World) (token : String) (quoted : Bool) :
    EndsWith (AgreesWithTyped world (.atom token quoted)) (fun _ => True)
      (valueOfToken token quoted) := by
  unfold valueOfToken
  split
  · exact rfl
  split
  · refine (EndsWith.any (scaledNumber 0 token)).self.weaken fun value reads => ?_
    obtain ⟨val, -, rfl, -⟩ := scaledNumber_eq_ok (.inl rfl) reads
    exact ⟨ofEvent_of_read reads, nofun⟩
  split
  next literal => exact ofEvent_of_read (if_pos literal)
  split
  next yes => exact if_pos yes
  next notYes =>
  split
  next no => exact (if_neg notYes).trans (if_pos no)
  · exact rfl

/-! ### Groups -/

/-- A pair that is neither an address pair nor tagged with a scale is no tagged pair. -/
theorem not_isTaggedPair {items : List Event} (notAddress : ¬isAddressPair items)
    (untagged : taggedNumber items = none) : ¬IsTaggedPair items := by
  rintro ⟨tag, inner, rfl, word, listed, isTag⟩
  rw [taggedNumber] at untagged
  split_ifs at untagged with exactly mantissa
  simp only [List.mem_cons, List.not_mem_nil, or_false] at listed
  rcases listed with rfl | rfl | rfl
  · exact notAddress isTag
  · exact exactly isTag
  · exact mantissa isTag

/-- One value for each item, that of the item. -/
theorem forall₂_valuesOfEvents (world : World) (items : List Event) :
    EndsWith (List.Forall₂ (fun item value => untyped world (some item) = .ok (.value value)) items)
      (fun _ => True) (valuesOfEvents world items) := by
  induction items with
  | nil => exact .nil
  | cons item items ih =>
      rw [valuesOfEvents]
      refine (EndsWith.any (valueOfEvent world item)).self.bind fun value first => ?_
      exact ih.bind fun values others => .cons (ofEvent_of_read first) others

/-- A group of which every item is read as a value is read as the list of the values. -/
theorem list_of_forall₂ {item : Coercion} {items : List Event} {values : List Value}
    (each : List.Forall₂ (fun event value => item world (some event) = .ok (.value value))
      items values) :
    list item world (some (.group items)) = .ok (.value (.list values)) := by
  have read : items.mapM (fun event => item world (some event)) = .ok (values.map .value) := by
    induction each with
    | nil => rfl
    | cons first others ih =>
        rw [List.mapM_cons, first, ih]
        rfl
  rw [list, read]
  change ((Value.ofItems (values.map .value)).map Datum.value).mapError Failure.invalid = _
  rw [Value.ofItems_map_value]
  rfl

/-- A pair that is tagged with a scale is read as a typed coercion reads it. -/
theorem agreesWithTyped_taggedNumber {items : List Event} {result : Except Failure Value}
    (tagged : taggedNumber items = some result) :
    EndsWith (AgreesWithTyped world (.group items)) (fun _ => True) result := by
  refine (EndsWith.any result).self.weaken fun value reads => ?_
  subst reads
  obtain ⟨val, amount, rfl, -⟩ := taggedNumber_eq_ok tagged
  have typed (scale : ℤ) : numberOfEvent scale (.group items) = .ok (.number val amount) := by
    rw [numberOfEvent, tagged, Option.getD_some]
  exact ⟨ofEvent_of_read (typed 0), fun _ _ => ofEvent_of_read (typed mantissaScale)⟩

/-- An untyped event is read as a typed coercion reads it. -/
theorem agreesWithTyped_valueOfEvent (world : World) (event : Event) :
    EndsWith (AgreesWithTyped world event) (fun _ => True) (valueOfEvent world event) := by
  cases event with
  | atom token quoted =>
      rw [valueOfEvent]
      exact agreesWithTyped_valueOfToken world token quoted
  | group items =>
      rw [valueOfEvent]
      split
      · refine (EndsWith.any (addressOfEvent world (.group items))).self.weaken
          fun value reads => ?_
        obtain ⟨account, rfl⟩ := addressOfEvent_eq_ok reads
        exact ofEvent_of_read reads
      next notAddress =>
      split
      next result tagged => exact agreesWithTyped_taggedNumber tagged
      next untagged =>
        exact (forall₂_valuesOfEvents world items).map fun values each =>
          ⟨items, rfl, not_isTaggedPair notAddress untagged, each, list_of_forall₂ each⟩

/-- **Typed and untyped agree.** Whatever is read without a type is a value, and the coercion of the
type of the value, had it been declared, reads the same; in a list that holds of every item. -/
theorem untyped_agreesWithTyped {event : Option Event} {datum : Datum}
    (reads : untyped world event = .ok datum) :
    ∃ content value, event = some content ∧ datum = .value value ∧
      AgreesWithTyped world content value := by
  obtain ⟨content, value, rfl, read, rfl⟩ := ofEvent_eq_ok reads
  have agrees := agreesWithTyped_valueOfEvent world content
  rw [read] at agrees
  exact ⟨content, value, rfl, rfl, agrees⟩

/-- A list of all kinds: two tagged pairs, a truth value, a text of digits that is quoted, and a
list that is no pair under a tag, because the tag stands last. -/
def assorted : Event :=
  .group [.group [.bare "Exp", .bare "1.50"], .group [.bare "ADDRESS", .bare "root"], .bare "No",
    .quoted "7", .group [.bare "0x1f", .bare "exp"]]

/-- A list with items of several kinds is read as the typed coercions read it. -/
theorem untyped_agreesWithTyped_assorted :
    ∃ values, untyped { accounts := [("Root", "0x5")] } (some assorted) =
        .ok (.value (.list values)) ∧
      values = [.number ⟨false, 150, -2⟩ 18, .address "0x5", .bool false, .string "7",
        .list [.address "0x1f", .string "exp"]] ∧
      AgreesWithTyped { accounts := [("Root", "0x5")] } assorted (.list values) := by
  have reads : untyped { accounts := [("Root", "0x5")] } (some assorted) =
      .ok (.value (.list [.number ⟨false, 150, -2⟩ 18, .address "0x5", .bool false, .string "7",
        .list [.address "0x1f", .string "exp"]])) := rfl
  obtain ⟨content, value, same, given, agrees⟩ := untyped_agreesWithTyped reads
  obtain rfl := Option.some.inj same
  obtain rfl := Datum.value.inj given
  exact ⟨_, reads, rfl, agrees⟩

end Coerce
end Playbook
