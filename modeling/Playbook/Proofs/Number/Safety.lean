import Playbook.Proofs.Number.Encoding
import Playbook.Proofs.Number.Shown
import Playbook.Proofs.Vocabulary.Bound

/-! # Safe arithmetic

A number is read at one precision, shown at a second and encoded at a third. What has been read is
below the word bound, and so within reach of all three: where numbers are read, alone or among
untyped values, no arithmetic signals, neither then nor when the value is shown or encoded.
-/

namespace Playbook

namespace Value

/-- A value has itself as a part, and the parts of its items or entries. -/
inductive HasPart : Value → Value → Prop where
  | self (value : Value) : HasPart value value
  | item {items : List Value} {item part : Value} (member : item ∈ items)
      (inside : HasPart item part) : HasPart (.list items) part
  | entry {entries : List (String × Value)} {key : String} {entry part : Value}
      (member : (key, entry) ∈ entries) (inside : HasPart entry part) : HasPart (.map entries) part

/-- The value is shown and encoded without a failure. -/
def HasForms (value : Value) : Prop :=
  (∃ text, value.render = .ok text) ∧ ∃ encoded, value.encode = .ok encoded

/-- All parts of the value are shown and encoded without a failure. -/
def IsSafe (value : Value) : Prop := ∀ part, value.HasPart part → part.HasForms

/-- A value whose only part is itself is safe once it has its two forms. -/
theorem HasForms.isSafe {value : Value} (forms : value.HasForms)
    (alone : ∀ part, value.HasPart part → part = value) : value.IsSafe :=
  fun part isPart => alone part isPart ▸ forms

/-- Addresses are safe. -/
theorem isSafe_address (text : String) : (address text).IsSafe :=
  HasForms.isSafe ⟨⟨_, rfl⟩, ⟨_, rfl⟩⟩ fun _ isPart => by cases isPart; rfl

/-- Strings are safe. -/
theorem isSafe_string (text : String) : (string text).IsSafe :=
  HasForms.isSafe ⟨⟨_, rfl⟩, ⟨_, rfl⟩⟩ fun _ isPart => by cases isPart; rfl

/-- Truth values are safe. -/
theorem isSafe_bool (val : Bool) : (bool val).IsSafe :=
  HasForms.isSafe ⟨⟨_, rfl⟩, ⟨_, rfl⟩⟩ fun _ isPart => by cases isPart; rfl

/-- Coerced numbers are safe. -/
theorem isSafe_number {val : Decimal} {scale : ℤ} (coerced : IsCoerced val scale) :
    (number val scale).IsSafe := by
  obtain ⟨text, -, renders, -, -⟩ := coerced.ofToken?_render
  exact HasForms.isSafe ⟨⟨text, renders⟩, ⟨_, coerced.encode_eq⟩⟩
    fun _ isPart => by cases isPart; rfl

/-- Items that can each be shown can be shown together. -/
theorem exists_renderItems {items : List Value} (each : ∀ item ∈ items, item.HasForms) :
    ∃ texts, renderItems items = .ok texts := by
  induction items with
  | nil => exact ⟨[], rfl⟩
  | cons item items ih =>
      rw [List.forall_mem_cons] at each
      obtain ⟨⟨text, renders⟩, -⟩ := each.1
      obtain ⟨texts, others⟩ := ih each.2
      exact ⟨text :: texts, by rw [renderItems, renders, others]; rfl⟩

/-- Items that can each be encoded can be encoded together. -/
theorem exists_encodeItems {items : List Value} (each : ∀ item ∈ items, item.HasForms) :
    ∃ encoded, encodeItems items = .ok encoded := by
  induction items with
  | nil => exact ⟨[], rfl⟩
  | cons item items ih =>
      rw [List.forall_mem_cons] at each
      obtain ⟨-, first, encodes⟩ := each.1
      obtain ⟨encoded, others⟩ := ih each.2
      exact ⟨first :: encoded, by rw [encodeItems, encodes, others]; rfl⟩

/-- A list of values with both forms has both forms. -/
theorem hasForms_list {items : List Value} (each : ∀ item ∈ items, item.HasForms) :
    (list items).HasForms := by
  obtain ⟨texts, renders⟩ := exists_renderItems each
  obtain ⟨encoded, encodes⟩ := exists_encodeItems each
  exact ⟨⟨_, by rw [render, renders]; rfl⟩, ⟨_, by rw [encode, encodes]; rfl⟩⟩

/-- A list of safe values is safe. -/
theorem isSafe_list {items : List Value} (each : ∀ item ∈ items, item.IsSafe) :
    (list items).IsSafe := by
  intro part isPart
  cases isPart with
  | self => exact hasForms_list fun item member => each item member item (.self item)
  | item member inside => exact each _ member part inside

end Value

namespace Coerce

/-- If there is a failure, it is a misreading; what is read is safe. -/
abbrev ReadsSafely (result : Except Failure Value) : Prop :=
  EndsWith Value.IsSafe Failure.IsMisreading result

/-- A reading that fails as readings do is safe if all its values are. -/
theorem ReadsSafely.of_misreads {result : Except Failure Value} (misreads : Misreads result)
    (safe : ∀ value, result = .ok value → value.IsSafe) : ReadsSafely result :=
  misreads.self.weaken safe

/-- The number of a token is read safely. -/
theorem readsSafely_scaledNumber (token : String) : ReadsSafely (scaledNumber 0 token) := by
  refine .of_misreads (misreads_scaledNumber (.inl rfl) token) fun value reads => ?_
  obtain ⟨val, -, rfl, coerced⟩ := scaledNumber_eq_ok (.inl rfl) reads
  exact Value.isSafe_number coerced

/-- The number of a tagged pair is read safely. -/
theorem readsSafely_taggedNumber {items : List Event} {result : Except Failure Value}
    (tagged : taggedNumber items = some result) : ReadsSafely result := by
  refine .of_misreads (misreads_taggedNumber tagged) fun value reads => ?_
  obtain ⟨val, scale, rfl, coerced⟩ := taggedNumber_eq_ok (tagged.trans (congrArg some reads))
  exact Value.isSafe_number coerced

/-- The number of an event is read safely. -/
theorem readsSafely_numberOfEvent {scale : ℤ} (scaled : scale = 0 ∨ scale = mantissaScale)
    (event : Event) : ReadsSafely (numberOfEvent scale event) := by
  refine .of_misreads (misreads_numberOfEvent scaled event) fun value reads => ?_
  obtain ⟨val, scale, rfl, coerced⟩ := numberOfEvent_eq_ok scaled reads
  exact Value.isSafe_number coerced

/-- The address of an event is read safely. -/
theorem readsSafely_addressOfEvent (world : World) (event : Event) :
    ReadsSafely (addressOfEvent world event) := by
  refine .of_misreads (misreads_addressOfEvent world event) fun value reads => ?_
  obtain ⟨account, rfl⟩ := addressOfEvent_eq_ok reads
  exact Value.isSafe_address account

/-- The value of an untyped atom is read safely. -/
theorem readsSafely_valueOfToken (token : String) (quoted : Bool) :
    ReadsSafely (valueOfToken token quoted) := by
  unfold valueOfToken
  split
  · exact Value.isSafe_string token
  split
  · exact readsSafely_scaledNumber token
  split
  · exact Value.isSafe_address token
  split
  · exact Value.isSafe_bool true
  split
  · exact Value.isSafe_bool false
  · exact Value.isSafe_string token

mutual

/-- Untyped events are read safely, whatever their tags. -/
theorem readsSafely_valueOfEvent (world : World) :
    (event : Event) → ReadsSafely (valueOfEvent world event)
  | .atom token quoted => readsSafely_valueOfToken token quoted
  | .group items => by
      rw [valueOfEvent]
      split
      · exact readsSafely_addressOfEvent world (.group items)
      · split
        next result tagged => exact readsSafely_taggedNumber tagged
        next =>
          exact (readsSafely_valuesOfEvents world items).map fun _ each => Value.isSafe_list each

/-- The values of untyped events are read safely. -/
theorem readsSafely_valuesOfEvents (world : World) : (items : List Event) →
    EndsWith (fun values => ∀ value ∈ values, value.IsSafe) Failure.IsMisreading
      (valuesOfEvents world items)
  | [] => List.forall_mem_nil _
  | item :: items => by
      rw [valuesOfEvents]
      refine (readsSafely_valueOfEvent world item).bind fun value safe => ?_
      exact (readsSafely_valuesOfEvents world items).bind fun values others =>
        List.forall_mem_cons.mpr ⟨safe, others⟩

end

/-- What is read safely of the events that are there is so when an event may be missing. -/
theorem exists_safe_of_readsSafely {expected : String} {read : World → Event → Except Failure Value}
    {world : World} (safely : ∀ event, ReadsSafely (read world event)) (event : Option Event) :
    (∃ value, ofEvent expected read world event = .ok (.value value) ∧ value.IsSafe) ∨
      ∃ error, ofEvent expected read world event = .error (.script error) := by
  cases event with
  | none => exact .inr ⟨_, rfl⟩
  | some content =>
      have ends : EndsWith Value.IsSafe Failure.IsScript (read world content) :=
        (safely content).imp fun _ misreading => misreading.isBare.isScript
      rcases ends.ok_or_script with ⟨value, reads, safe⟩ | ⟨error, reads⟩
      · exact .inl ⟨value, by rw [ofEvent, reads]; rfl, safe⟩
      · exact .inr ⟨error, by rw [ofEvent, reads]; rfl⟩

/-- What is read as a count is a number that was read. -/
theorem readsSafely_count (event : Event) :
    ReadsSafely (do
      match ← numberOfEvent 0 event with
      | .number val scale =>
        if val.isBelowZero || !val.isWhole then mismatch "non-negative integer" (some event)
        else .ok (.number val scale)
      | other => .ok other) := by
  refine (readsSafely_numberOfEvent (.inl rfl) event).bind fun value safe => ?_
  split
  next val scale =>
    have refused : Misreads (mismatch "non-negative integer" (some event) : Except Failure Value) :=
      misreads_mismatch (by decide) _
    split
    · exact refused
    · exact safe
  next => exact safe

end Coerce

/-- **Safe arithmetic.** Wherever numbers are read, there is an error of the script, or a value of
which every part, however deep in lists, can be shown and encoded: no arithmetic signals on the way,
whatever the digits and the power of a token. -/
theorem numbers_readSafely (world : World) (event : Option Event) (coercion : Coercion)
    (listed : coercion ∈ [Coerce.number, Coerce.mantissa, Coerce.count, Coerce.untyped]) :
    (∃ value, coercion world event = .ok (.value value) ∧
      ∀ part, value.HasPart part →
        (∃ text, part.render = .ok text) ∧ ∃ encoded, part.encode = .ok encoded) ∨
    ∃ error, coercion world event = .error (.script error) := by
  simp only [List.mem_cons, List.not_mem_nil, or_false] at listed
  rcases listed with rfl | rfl | rfl | rfl
  · exact Coerce.exists_safe_of_readsSafely (Coerce.readsSafely_numberOfEvent (.inl rfl)) event
  · exact Coerce.exists_safe_of_readsSafely (Coerce.readsSafely_numberOfEvent (.inr rfl)) event
  · exact Coerce.exists_safe_of_readsSafely Coerce.readsSafely_count event
  · exact Coerce.exists_safe_of_readsSafely (Coerce.readsSafely_valueOfEvent world) event

/-- A list with a zero far beyond the largest exponent, a number far below the smallest and an
amount in a list of its own: the whole and the amount in it have both forms. -/
theorem numbers_readSafely_extremes :
    ∃ value amount, Coerce.untyped {} (some (.group [.bare "0e999999999999999999",
        .bare "1e-1999999999999999997", .group [.group [.bare "exp", .bare "-1.50"]]])) =
          .ok (.value value) ∧
      amount = .number ⟨true, 150, -2⟩ 18 ∧ value.HasPart amount ∧
      ((∃ text, value.render = .ok text) ∧ ∃ encoded, value.encode = .ok encoded) ∧
      (∃ text, amount.render = .ok text) ∧ ∃ encoded, amount.encode = .ok encoded := by
  have reads : Coerce.untyped {} (some (.group [.bare "0e999999999999999999",
      .bare "1e-1999999999999999997", .group [.group [.bare "exp", .bare "-1.50"]]])) =
        .ok (.value (.list [.number ⟨false, 0, 999999999999999999⟩ 0,
          .number ⟨false, 1, -1999999999999999997⟩ 0, .list [.number ⟨true, 150, -2⟩ 18]])) := rfl
  rcases numbers_readSafely {} _ Coerce.untyped (by simp) with ⟨value, found, safe⟩ | ⟨error, fails⟩
  · obtain rfl := Datum.value.inj (Except.ok.inj (reads.symm.trans found))
    have part : Value.HasPart (.list [.number ⟨false, 0, 999999999999999999⟩ 0,
        .number ⟨false, 1, -1999999999999999997⟩ 0, .list [.number ⟨true, 150, -2⟩ 18]])
          (.number ⟨true, 150, -2⟩ 18) :=
      .item (List.mem_of_getElem? (i := 2) rfl) (.item (List.mem_singleton_self _) (.self _))
    exact ⟨_, _, reads, rfl, part, safe _ (.self _), safe _ part⟩
  · cases reads.symm.trans fails

end Playbook
