import Mathlib.Data.List.Perm.Basic
import Playbook.Proofs.Command.Binding
import Playbook.Proofs.Number.Safety
import Playbook.Proofs.Registry
import Playbook.Proofs.Vocabulary.Untyped

/-! # Maps

A map is read from pairs of a key and an item. It is a table: the keys differ, and nothing but the
keys tells where an entry belongs. So the order in which the pairs are written cannot be seen,
neither in the text that is shown nor in the argument that is handed to contracts, and that holds at
every depth of lists and maps.
-/

namespace Playbook

namespace Table
variable {α β : Type} {table : Table α} {key : String}

/-- A table contains the keys of its entries. -/
theorem contains_iff_mem_keys : table.contains key = true ↔ key ∈ table.keys := by
  induction table with
  | nil => simp [contains, get?, keys]
  | cons head rest ih =>
      by_cases same : key = head.1
      · simp [contains, get?, keys, same]
      · simp only [contains, keys] at ih
        simp [contains, get?, keys, same, ih]

/-- Where keys differ, the entry of a key is the one that stands under it. -/
theorem get?_eq_some_iff (distinct : table.keys.Nodup) {entry : α} :
    table.get? key = some entry ↔ (key, entry) ∈ table :=
  ⟨mem_of_get?, get?_of_mem distinct⟩

/-- The order of the entries does not matter for what is found under a key. -/
theorem get?_eq_of_perm {other : Table α} (distinct : table.keys.Nodup)
    (reordered : table.Perm other) :
    other.get? key = table.get? key := by
  have distinct' : other.keys.Nodup := (reordered.map _).nodup_iff.mp distinct
  apply Option.ext
  intro entry
  rw [get?_eq_some_iff distinct, get?_eq_some_iff distinct', reordered.mem_iff]

/-- Tables whose entries have the same keys one by one have the same keys. -/
theorem keys_eq_of_forall₂ {other : Table β}
    (each : List.Forall₂ (fun left right => left.1 = right.1) table other) :
    other.keys = table.keys := by
  rw [keys, keys, ← List.forall₂_eq_eq_eq, List.forall₂_map_left_iff, List.forall₂_map_right_iff]
  exact List.Forall₂.flip (each.imp fun _ _ => Eq.symm)

/-- Tables whose entries are related one by one, under the same keys, have related entries under
each key. -/
theorem rel_get? {related : α → β → Prop} {other : Table β}
    (each : List.Forall₂ (fun left right => left.1 = right.1 ∧ related left.2 right.2) table other)
    (key : String) : Option.Rel related (table.get? key) (other.get? key) := by
  induction each with
  | nil => exact .none
  | @cons left right rest others first later ih =>
      obtain ⟨sameKey, isRelated⟩ := first
      rw [get?, get?, sameKey]
      split
      · exact .some isRelated
      · exact ih

end Table

/-- Entries are sorted alike in any order if their keys differ. -/
theorem sortEntries_eq_of_perm {α : Type} {entries others : Table α} (distinct : entries.keys.Nodup)
    (reordered : entries.Perm others) : sortEntries others = sortEntries entries :=
  mergeSort_key_eq_of_perm Prod.fst distinct reordered

/-! ### Forms that do not tell the order -/

/-- Two arguments are equal but for the order of the entries in maps: a map has matching arguments
under the same keys. -/
inductive Encoded.Matches : Encoded → Encoded → Prop where
  | self (argument : Encoded) : Matches argument argument
  | list {items others : List Encoded} (each : List.Forall₂ Matches items others) :
      Matches (.list items) (.list others)
  | map {entries others : Table Encoded}
      (found : ∀ key, Option.Rel Matches (entries.get? key) (others.get? key)) :
      Matches (.map entries) (.map others)

namespace Value

/-- Both values are shown and encoded without a failure: as one text, and as arguments that match.
-/
def FormsAgree (value other : Value) : Prop :=
  ∃ text encoded encoded', value.render = .ok text ∧ other.render = .ok text ∧
    value.encode = .ok encoded ∧ other.encode = .ok encoded' ∧ encoded.Matches encoded'

/-- A value with both forms agrees with itself. -/
theorem HasForms.formsAgree {value : Value} (forms : value.HasForms) : value.FormsAgree value := by
  obtain ⟨⟨text, renders⟩, encoded, encodes⟩ := forms
  exact ⟨text, encoded, encoded, renders, renders, encodes, encodes, .self encoded⟩

/-- Items are shown one by one. -/
theorem renderItems_eq_ok_iff {items : List Value} {texts : List String} :
    renderItems items = .ok texts ↔
      List.Forall₂ (fun item text => item.render = .ok text) items texts :=
  traversal_eq_ok_iff render renderItems rfl fun _ _ => rfl

/-- Items are encoded one by one. -/
theorem encodeItems_eq_ok_iff {items : List Value} {arguments : List Encoded} :
    encodeItems items = .ok arguments ↔
      List.Forall₂ (fun item argument => item.encode = .ok argument) items arguments :=
  traversal_eq_ok_iff encode encodeItems rfl fun _ _ => rfl

/-- A result with a key is there exactly if the result is. -/
theorem keyed_eq_ok_iff {ε α : Type} {result : Except ε α} {key : String} {entry : String × α} :
    (key, ·) <$> result = .ok entry ↔ key = entry.1 ∧ result = .ok entry.2 := by
  obtain ⟨key', content⟩ := entry
  cases result with
  | error failure => exact iff_of_false (by rintro ⟨⟩) (fun ⟨_, same⟩ => by cases same)
  | ok result =>
      constructor
      · rintro ⟨⟩
        exact ⟨rfl, rfl⟩
      · rintro ⟨rfl, ⟨⟩⟩
        rfl

/-- Entries are shown one by one, under their keys. -/
theorem renderEntries_eq_ok_iff {entries : Table Value} {texts : Table String} :
    renderEntries entries = .ok texts ↔
      List.Forall₂ (fun entry text => entry.1 = text.1 ∧ entry.2.render = .ok text.2)
        entries texts := by
  simp only [← keyed_eq_ok_iff]
  refine traversal_eq_ok_iff (fun entry => (entry.1, ·) <$> entry.2.render) renderEntries rfl ?_
  intro entry _
  rw [renderEntries]
  cases entry.2.render <;> rfl

/-- Entries are encoded one by one, under their keys. -/
theorem encodeEntries_eq_ok_iff {entries : Table Value} {arguments : Table Encoded} :
    encodeEntries entries = .ok arguments ↔
      List.Forall₂ (fun entry argument => entry.1 = argument.1 ∧ entry.2.encode = .ok argument.2)
        entries arguments := by
  simp only [← keyed_eq_ok_iff]
  refine traversal_eq_ok_iff (fun entry => (entry.1, ·) <$> entry.2.encode) encodeEntries rfl ?_
  intro entry _
  rw [encodeEntries]
  cases entry.2.encode <;> rfl

/-- Lists agree in their forms if their items do one by one. -/
theorem FormsAgree.list {items others : List Value} (each : List.Forall₂ FormsAgree items others) :
    (Value.list items).FormsAgree (.list others) := by
  have gathered : ∃ texts arguments others', renderItems items = .ok texts ∧
      renderItems others = .ok texts ∧ encodeItems items = .ok arguments ∧
      encodeItems others = .ok others' ∧ List.Forall₂ Encoded.Matches arguments others' := by
    simp only [renderItems_eq_ok_iff, encodeItems_eq_ok_iff]
    induction each with
    | nil => exact ⟨[], [], [], .nil, .nil, .nil, .nil, .nil⟩
    | cons first _ ih =>
        obtain ⟨text, argument, argument', renders, rendersToo, encodes, encodesToo, equal⟩ := first
        obtain ⟨texts, arguments, others', shown, shownToo, encoded, encodedToo, matching⟩ := ih
        exact ⟨text :: texts, argument :: arguments, argument' :: others', .cons renders shown,
          .cons rendersToo shownToo, .cons encodes encoded, .cons encodesToo encodedToo,
          .cons equal matching⟩
  obtain ⟨texts, arguments, others', shown, shownToo, encoded, encodedToo, matching⟩ := gathered
  exact ⟨_, .list arguments, .list others', by rw [render, shown]; rfl,
    by rw [render, shownToo]; rfl, by rw [encode, encoded]; rfl, by rw [encode, encodedToo]; rfl,
    .list matching⟩

/-- Under each key one of the entries, whose values have forms that agree. -/
theorem FormsAgree.map {entries changed others : Table Value}
    (each : List.Forall₂ (fun left right => left.1 = right.1 ∧ left.2.FormsAgree right.2)
      entries changed) (reordered : changed.Perm others) (distinct : entries.keys.Nodup) :
    (Value.map entries).FormsAgree (.map others) := by
  have gathered : ∃ (texts : Table String) (arguments changed' : Table Encoded),
      renderEntries entries = .ok texts ∧ renderEntries changed = .ok texts ∧
      encodeEntries entries = .ok arguments ∧ encodeEntries changed = .ok changed' ∧
      List.Forall₂ (fun left right => left.1 = right.1 ∧ left.2.Matches right.2)
        arguments changed' := by
    clear distinct reordered
    simp only [renderEntries_eq_ok_iff, encodeEntries_eq_ok_iff]
    induction each with
    | nil => exact ⟨[], [], [], .nil, .nil, .nil, .nil, .nil⟩
    | @cons left right _ _ first _ ih =>
        obtain ⟨same, text, argument, argument', renders, rendersToo, encodes, encodesToo,
          equal⟩ := first
        obtain ⟨texts, arguments, changed', shown, shownToo, encoded, encodedToo, matching⟩ := ih
        exact ⟨(left.1, text) :: texts, (left.1, argument) :: arguments,
          (left.1, argument') :: changed',
          .cons ⟨rfl, renders⟩ shown, .cons ⟨same.symm, rendersToo⟩ shownToo,
          .cons ⟨rfl, encodes⟩ encoded, .cons ⟨same.symm, encodesToo⟩ encodedToo,
          .cons ⟨rfl, equal⟩ matching⟩
  obtain ⟨texts, arguments, changed', shown, shownToo, encoded, encodedToo, matching⟩ := gathered
  have sameKeys : texts.keys = entries.keys :=
    Table.keys_eq_of_forall₂ ((renderEntries_eq_ok_iff.mp shown).imp fun _ _ => And.left)
  have sameKeysToo : changed'.keys = entries.keys := calc
    _ = arguments.keys := Table.keys_eq_of_forall₂ (matching.imp fun _ _ => And.left)
    _ = entries.keys :=
      Table.keys_eq_of_forall₂ ((encodeEntries_eq_ok_iff.mp encoded).imp fun _ _ => And.left)
  -- what the entries give is put into the order of the others
  obtain ⟨texts', shownLast, sameTexts⟩ :=
    List.perm_comp_forall₂ reordered.symm (renderEntries_eq_ok_iff.mp shownToo)
  obtain ⟨others', encodedLast, sameArguments⟩ :=
    List.perm_comp_forall₂ reordered.symm (encodeEntries_eq_ok_iff.mp encodedToo)
  have sorted : sortEntries texts' = sortEntries texts :=
    sortEntries_eq_of_perm (sameKeys ▸ distinct) sameTexts.symm
  have found (key : String) : Table.get? others' key = Table.get? changed' key :=
    Table.get?_eq_of_perm (sameKeysToo ▸ distinct) sameArguments.symm
  refine ⟨_, .map arguments, .map others', by rw [render, shown]; rfl, ?_,
    by rw [encode, encoded]; rfl, by rw [encode, encodeEntries_eq_ok_iff.mpr encodedLast]; rfl,
    .map fun key => found key ▸ Table.rel_get? matching key⟩
  rw [render, renderEntries_eq_ok_iff.mpr shownLast]
  simp only [bind, Except.bind, sorted]
  rfl

end Value

/-! ### Reading pairs -/

/-- The key of a pair. -/
def Event.key? : Event → Option String
  | .group [.atom key _, _] => some key
  | _ => none

namespace Coerce

/-- What a coercion gives of an event that is there is a value. -/
def GivesValues (coercion : Coercion) (world : World) : Prop :=
  ∀ event datum, coercion world (some event) = .ok datum → ∃ value, datum = .value value

/-- An event is a pair, and an entry has its key and what its item is read as. -/
def ReadsEntry (item : Coercion) (world : World) (pair : Event) (entry : String × Datum) : Prop :=
  ∃ quoted content, pair = .group [.atom entry.1 quoted, content] ∧
    item world (some content) = .ok entry.2

variable {item : Coercion} {world : World}

/-- A pair is read as an entry under its key, with what is read of its second part. -/
theorem readsEntry_pair_iff {key : String} {quoted : Bool} {content : Event}
    {entry : String × Datum} :
    ReadsEntry item world (.group [.atom key quoted, content]) entry ↔
      entry.1 = key ∧ item world (some content) = .ok entry.2 := by
  constructor
  · rintro ⟨_, _, same, reads⟩
    cases same
    exact ⟨rfl, reads⟩
  · rintro ⟨rfl, reads⟩
    exact ⟨quoted, content, rfl, reads⟩

/-- Pairs are read one after the other into the entries before, as long as the keys differ. -/
theorem entries_eq_ok_iff {pairs : List Event} {read data : Table Datum}
    (distinct : read.keys.Nodup) :
    entries item world read pairs = .ok data ↔ ∃ more, data = read ++ more ∧
      List.Forall₂ (ReadsEntry item world) pairs more ∧ data.keys.Nodup := by
  fun_induction entries item world read pairs with
  | case1 read =>
      constructor
      · intro same
        obtain rfl := Except.ok.inj same
        exact ⟨[], (List.append_nil _).symm, .nil, distinct⟩
      · rintro ⟨more, rfl, nothing, -⟩
        obtain rfl := List.forall₂_nil_left_iff.mp nothing
        rw [List.append_nil]
  | case2 read key quoted content rest known =>
      refine iff_of_false (by rintro ⟨⟩) ?_
      rintro ⟨more, rfl, each, differ⟩
      obtain ⟨⟨key', datum⟩, others, reads, -, rfl⟩ := List.forall₂_cons_left_iff.mp each
      obtain ⟨rfl, -⟩ := readsEntry_pair_iff.mp reads
      rw [Table.keys, List.map_append, List.nodup_append] at differ
      exact differ.2.2 _ (Table.contains_iff_mem_keys.mp known) _ List.mem_cons_self rfl
  | case3 read key quoted content rest unknown ih =>
      have fresh (datum : Datum) : Table.keys (read ++ [(key, datum)]) |>.Nodup := by
        have isNew : key ∉ read.keys := fun known => unknown (Table.contains_iff_mem_keys.mpr known)
        rw [Table.keys, List.map_append, List.nodup_append]
        refine ⟨distinct, List.nodup_singleton _, ?_⟩
        rintro _ known _ last rfl
        obtain rfl : _ = key := List.mem_singleton.mp last
        exact isNew known
      cases reads : item world (some content) with
      | error failure =>
          refine iff_of_false (by rintro ⟨⟩) ?_
          rintro ⟨more, -, each, -⟩
          obtain ⟨entry, -, given, -, -⟩ := List.forall₂_cons_left_iff.mp each
          cases reads.symm.trans (readsEntry_pair_iff.mp given).2
      | ok datum =>
          refine (ih datum (fresh datum)).trans ⟨?_, ?_⟩
          · rintro ⟨more, rfl, each, differ⟩
            exact ⟨(key, datum) :: more, List.append_assoc ..,
              .cons ⟨quoted, content, rfl, reads⟩ each, differ⟩
          · rintro ⟨more, rfl, each, differ⟩
            obtain ⟨⟨key', datum'⟩, others, given, later, rfl⟩ := List.forall₂_cons_left_iff.mp each
            obtain ⟨rfl, readsToo⟩ := readsEntry_pair_iff.mp given
            obtain rfl := Except.ok.inj (reads.symm.trans readsToo)
            exact ⟨others, (List.append_assoc read [_] others).symm, later, differ⟩
  | case4 read pair rest notPair =>
      refine iff_of_false (by rintro ⟨⟩) ?_
      rintro ⟨more, -, each, -⟩
      obtain ⟨entry, others, ⟨quoted, content, rfl, -⟩, -, -⟩ := List.forall₂_cons_left_iff.mp each
      exact notPair _ _ _ rfl

/-- Pairs are read as the entries that they give one by one, as long as the keys differ. -/
theorem entries_empty_eq_ok_iff {pairs : List Event} {data : Table Datum} :
    entries item world [] pairs = .ok data ↔
      List.Forall₂ (ReadsEntry item world) pairs data ∧ data.keys.Nodup := by
  have start : Table.keys ([] : Table Datum) |>.Nodup := List.nodup_nil
  rw [entries_eq_ok_iff start]
  simp only [List.nil_append, exists_eq_left']

/-- The table of values as data. -/
def dataOf (entries : Table Value) : Table Datum :=
  entries.map fun entry => (entry.1, .value entry.2)

/-- Entries as data have the same keys. -/
theorem keys_dataOf (entries : Table Value) : (dataOf entries).keys = entries.keys := by
  simp [Table.keys, dataOf]

/-- Where only values are read, the entries that are read are values. -/
theorem exists_dataOf (values : GivesValues item world) {pairs : List Event} {data : Table Datum}
    (each : List.Forall₂ (ReadsEntry item world) pairs data) :
    ∃ entries, data = dataOf entries := by
  induction each with
  | nil => exact ⟨[], rfl⟩
  | @cons pair entry _ _ reads _ ih =>
      obtain ⟨key, datum⟩ := entry
      obtain ⟨_, content, -, given⟩ := reads
      obtain ⟨value, rfl⟩ := values content datum given
      obtain ⟨entries, rfl⟩ := ih
      exact ⟨(key, value) :: entries, rfl⟩

/-- Entries that are values make a map. -/
theorem ofEntries_dataOf (entries : Table Value) :
    Value.ofEntries (dataOf entries) = .ok (.map entries) := by
  have gathered : (dataOf entries).mapM (fun entry => (entry.2.item entry.1).map (entry.1, ·)) =
      Except.ok (ε := InvalidValue) entries := by
    induction entries with
    | nil => rfl
    | cons entry entries ih =>
        rw [dataOf, List.map_cons, List.mapM_cons, ← dataOf, ih]
        rfl
  exact congrArg (Value.map <$> ·) gathered

/-- A map is read from pairs whose keys differ and whose items are read, and has them as its
entries. -/
theorem map_eq_ok_iff (values : GivesValues item world) {pairs : List Event} {datum : Datum} :
    map item world (some (.group pairs)) = .ok datum ↔
      ∃ entries : Table Value, datum = .value (.map entries) ∧
        List.Forall₂ (ReadsEntry item world) pairs (dataOf entries) ∧ entries.keys.Nodup := by
  rw [map]
  constructor
  · intro succeeds
    cases read : entries item world [] pairs with
    | error failure =>
        rw [read] at succeeds
        cases succeeds
    | ok data =>
        obtain ⟨each, differ⟩ := entries_empty_eq_ok_iff.mp read
        obtain ⟨contents, rfl⟩ := exists_dataOf values each
        rw [read] at succeeds
        simp only [bind, Except.bind, ofEntries_dataOf] at succeeds
        rw [keys_dataOf] at differ
        exact ⟨contents, (Except.ok.inj succeeds).symm, each, differ⟩
  · rintro ⟨contents, rfl, each, differ⟩
    rw [← keys_dataOf] at differ
    rw [entries_empty_eq_ok_iff.mpr ⟨each, differ⟩]
    simp only [bind, Except.bind, ofEntries_dataOf]
    rfl

/-- A list is read from items that are read, and has them as its items. -/
theorem list_eq_ok_iff (values : GivesValues item world) {items : List Event} {datum : Datum} :
    list item world (some (.group items)) = .ok datum ↔
      ∃ contents, datum = .value (.list contents) ∧
      List.Forall₂ (fun event value => item world (some event) = .ok (.value value))
        items contents := by
  refine ⟨fun succeeds => ?_, fun ⟨contents, same, each⟩ => same ▸ list_of_forall₂ each⟩
  rw [list] at succeeds
  cases read : items.mapM fun event => item world (some event) with
  | error failure =>
      rw [read] at succeeds
      cases succeeds
  | ok data =>
      have each := (mapM_eq_ok_iff fun event => item world (some event)).mp read
      obtain ⟨contents, rfl, given⟩ := exists_values values each
      rw [read] at succeeds
      simp only [bind, Except.bind, Value.ofItems_map_value] at succeeds
      exact ⟨contents, (Except.ok.inj succeeds).symm, given⟩

/-- The coercions that are not made from others. -/
def singles : List Coercion := [address, number, mantissa, count, string, bool, event, untyped]

/-- What they read is a value with both forms. -/
theorem exists_hasForms_of_single {coercion : Coercion} (listed : coercion ∈ singles)
    {content : Event} {datum : Datum} (reads : coercion world (some content) = .ok datum) :
    ∃ value, datum = .value value ∧ value.HasForms := by
  have ofSafely {expected : String} {read : World → Event → Except Failure Value}
      (safely : ∀ event, ReadsSafely (read world event))
      (reads : ofEvent expected read world (some content) = .ok datum) :
      ∃ value, datum = .value value ∧ value.HasForms := by
    obtain ⟨event, value, same, found, rfl⟩ := ofEvent_eq_ok reads
    have safe := safely event
    rw [found] at safe
    exact ⟨value, rfl, safe value (.self value)⟩
  simp only [singles, List.mem_cons, List.not_mem_nil, or_false] at listed
  rcases listed with rfl | rfl | rfl | rfl | rfl | rfl | rfl | rfl
  · exact ofSafely (readsSafely_addressOfEvent world) reads
  · exact ofSafely (readsSafely_numberOfEvent (.inl rfl)) reads
  · exact ofSafely (readsSafely_numberOfEvent (.inr rfl)) reads
  · exact ofSafely readsSafely_count reads
  · cases content with
    | atom token quoted => exact ⟨_, (Except.ok.inj reads).symm, ⟨_, rfl⟩, _, rfl⟩
    | group items => cases reads
  · cases content with
    | atom token quoted =>
        change (if isYes token then _ else if isNo token then _ else _) = Except.ok datum at reads
        split_ifs at reads
        · exact ⟨_, (Except.ok.inj reads).symm, ⟨_, rfl⟩, _, rfl⟩
        · exact ⟨_, (Except.ok.inj reads).symm, ⟨_, rfl⟩, _, rfl⟩
        · cases reads
    | group items => cases reads
  · exact ⟨_, (Except.ok.inj reads).symm, ⟨_, rfl⟩, _, rfl⟩
  · exact ofSafely (readsSafely_valueOfEvent world) reads

end Coerce

/-! ### Pairs in another order -/

/-- The shape that is asked of an event: that of a coercion that is not made from others, or a list
or a map of items of one shape. -/
inductive Shape where
  | single (coercion : Coercion) (listed : coercion ∈ Coerce.singles)
  | list (item : Shape)
  | map (item : Shape)

/-- Two pairs have one key and related items, or are the same. -/
inductive SamePair (related : Event → Event → Prop) : Event → Event → Prop where
  | pair (key : Event) {content other : Event} (inner : related content other) :
      SamePair related (.group [key, content]) (.group [key, other])
  | self (event : Event) : SamePair related event event

namespace Shape

/-- The coercion of a shape. -/
def coercion : Shape → Coercion
  | single coercion _ => coercion
  | list item => Coerce.list item.coercion
  | map item => Coerce.map item.coercion

/-- Two events differ in the order of pairs only, where the shape asks for a map, at any depth. -/
def Reorders : Shape → Event → Event → Prop
  | list item, .group items, .group others => List.Forall₂ item.Reorders items others
  | map item, .group pairs, .group others =>
    ∃ changed, List.Forall₂ (SamePair item.Reorders) pairs changed ∧ changed.Perm others
  | _, event, other => event = other

/-- An event is one of its own reorderings. -/
theorem reorders_self (shape : Shape) (event : Event) : shape.Reorders event event := by
  induction shape generalizing event with
  | single => rfl
  | list item ih =>
      cases event with
      | atom => rfl
      | group items => exact List.forall₂_same.mpr fun event _ => ih event
  | map item =>
      cases event with
      | atom => rfl
      | group pairs => exact ⟨pairs, List.forall₂_same.mpr fun pair _ => .self pair, .refl pairs⟩

/-- Reordering can be undone. -/
theorem Reorders.symm {shape : Shape} {event other : Event}
    (reordered : shape.Reorders event other) :
    shape.Reorders other event := by
  induction shape generalizing event other with
  | single => exact Eq.symm reordered
  | list item ih =>
      cases event <;> cases other
      case group.group items others =>
        exact List.Forall₂.flip (reordered.imp fun _ _ inner => ih inner)
      all_goals exact Eq.symm reordered
  | map item ih =>
      cases event <;> cases other
      case group.group pairs others =>
        obtain ⟨changed, each, permuted⟩ := reordered
        have back : List.Forall₂ (SamePair item.Reorders) changed pairs :=
          List.Forall₂.flip (each.imp fun _ _ same => by
            cases same with
            | pair key inner => exact .pair key (ih inner)
            | self => exact .self _)
        obtain ⟨changed', each', permuted'⟩ := List.perm_comp_forall₂ permuted.symm back
        exact ⟨changed', each', permuted'⟩
      all_goals exact Eq.symm reordered

/-- The coercion of a shape gives values only. -/
theorem givesValues (shape : Shape) (world : World) : Coerce.GivesValues shape.coercion world := by
  induction shape with
  | single coercion listed =>
      intro event datum reads
      obtain ⟨value, same, -⟩ := Coerce.exists_hasForms_of_single listed reads
      exact ⟨value, same⟩
  | list item ih =>
      intro event datum reads
      cases event with
      | atom => cases reads
      | group items =>
          obtain ⟨contents, same, -⟩ := (Coerce.list_eq_ok_iff ih).mp reads
          exact ⟨_, same⟩
  | map item ih =>
      intro event datum reads
      cases event with
      | atom => cases reads
      | group pairs =>
          obtain ⟨contents, same, -⟩ := (Coerce.map_eq_ok_iff ih).mp reads
          exact ⟨_, same⟩

end Shape

/-- Where lists are related one by one, what is given for the items of one list has a counterpart
for the items of the other. -/
theorem exists_forall₂_of_forall₂ {α β γ δ : Type} {related : α → β → Prop} {gives : α → γ → Prop}
    {givesToo : β → δ → Prop} {agrees : γ → δ → Prop}
    {lefts : List α} {rights : List β} {results : List γ} (each : List.Forall₂ related lefts rights)
    (given : List.Forall₂ gives lefts results)
    (step : ∀ left right result, related left right → gives left result →
      ∃ other, givesToo right other ∧ agrees result other) :
    ∃ others, List.Forall₂ givesToo rights others ∧ List.Forall₂ agrees results others := by
  induction each generalizing results with
  | nil =>
      obtain rfl := List.forall₂_nil_left_iff.mp given
      exact ⟨[], .nil, .nil⟩
  | cons first _ ih =>
      obtain ⟨result, results, givesFirst, later, rfl⟩ := List.forall₂_cons_left_iff.mp given
      obtain ⟨other, gives, agree⟩ := step _ _ _ first givesFirst
      obtain ⟨others, givesAll, agreeAll⟩ := ih later
      exact ⟨other :: others, .cons gives givesAll, .cons agree agreeAll⟩

/-- What is read of a pair agrees with what is read of the same pair with its content reordered. -/
theorem exists_agreeingEntry {item : Shape} {world : World}
    (agreeing : ∀ {event other : Event} {value : Value}, item.Reorders event other →
      item.coercion world (some event) = .ok (.value value) →
      ∃ value', item.coercion world (some other) = .ok (.value value') ∧ value.FormsAgree value')
    {pair other : Event} {entry : String × Value} (same : SamePair item.Reorders pair other)
    (reads : Coerce.ReadsEntry item.coercion world pair (entry.1, .value entry.2)) :
    ∃ entry' : String × Value,
      Coerce.ReadsEntry item.coercion world other (entry'.1, .value entry'.2) ∧
        entry.1 = entry'.1 ∧ entry.2.FormsAgree entry'.2 := by
  obtain ⟨quoted, content, rfl, given⟩ := reads
  cases same with
  | pair key inner =>
      obtain ⟨value', givenToo, agree⟩ := agreeing inner given
      exact ⟨(entry.1, value'), ⟨quoted, _, rfl, givenToo⟩, rfl, agree⟩
  | self =>
      obtain ⟨value', givenToo, agree⟩ := agreeing (item.reorders_self content) given
      exact ⟨(entry.1, value'), ⟨quoted, content, rfl, givenToo⟩, rfl, agree⟩

/-- An event that is read is read in any order of pairs, as a value that cannot be told apart. -/
theorem Shape.exists_agreeing {shape : Shape} {world : World} {event other : Event} {value : Value}
    (reordered : shape.Reorders event other)
    (reads : shape.coercion world (some event) = .ok (.value value)) :
    ∃ value', shape.coercion world (some other) = .ok (.value value') ∧
      value.FormsAgree value' := by
  induction shape generalizing event other value with
  | single coercion listed =>
      obtain rfl : event = other := reordered
      obtain ⟨_, same, forms⟩ := Coerce.exists_hasForms_of_single listed reads
      obtain rfl := Datum.value.inj same
      exact ⟨value, reads, forms.formsAgree⟩
  | list item ih =>
      cases event with
      | atom => cases reads
      | group items =>
      cases other with
      | atom => cases reordered
      | group others =>
          obtain ⟨contents, same, each⟩ := (Coerce.list_eq_ok_iff (item.givesValues world)).mp reads
          obtain rfl := Datum.value.inj same
          have related : List.Forall₂ item.Reorders items others := reordered
          obtain ⟨contents', eachToo, agree⟩ :=
            exists_forall₂_of_forall₂ related each fun _ _ _ inner reads => ih inner reads
          exact ⟨_, (Coerce.list_eq_ok_iff (item.givesValues world)).mpr ⟨contents', rfl, eachToo⟩,
            .list agree⟩
  | map item ih =>
      cases event with
      | atom => cases reads
      | group pairs =>
      cases other with
      | atom => cases reordered
      | group others =>
          obtain ⟨entries, same, each, distinct⟩ :=
            (Coerce.map_eq_ok_iff (item.givesValues world)).mp reads
          obtain rfl := Datum.value.inj same
          obtain ⟨changed, related, permuted⟩ := reordered
          rw [Coerce.dataOf, List.forall₂_map_right_iff] at each
          obtain ⟨entries', eachToo, agree⟩ :=
            exists_forall₂_of_forall₂ related each fun _ _ _ => exists_agreeingEntry ih
          obtain ⟨entries'', eachLast, permuted'⟩ := List.perm_comp_forall₂ permuted.symm eachToo
          have sameKeys : Table.keys entries' = entries.keys :=
            Table.keys_eq_of_forall₂ (agree.imp fun _ _ => And.left)
          have distinct' : Table.keys entries' |>.Nodup := sameKeys ▸ distinct
          refine ⟨_, (Coerce.map_eq_ok_iff (item.givesValues world)).mpr
            ⟨entries'', rfl, List.forall₂_map_right_iff.mpr eachLast, ?_⟩,
              .map agree permuted'.symm distinct⟩
          exact (permuted'.map _).nodup_iff.mpr distinct'

/-- The entries that are read are those of pairs whose keys differ and whose items are read. -/
theorem Coerce.exists_forall₂_readsEntry_iff {item : Coercion} {world : World}
    (values : GivesValues item world) {pairs : List Event} :
    (∃ entries : Table Value, List.Forall₂ (ReadsEntry item world) pairs (dataOf entries) ∧
        entries.keys.Nodup) ↔
      (∀ pair ∈ pairs, ∃ key quoted content, pair = .group [.atom key quoted, content] ∧
        ∃ datum, item world (some content) = .ok datum) ∧ (pairs.filterMap Event.key?).Nodup := by
  have keys {entries : Table Value}
      (each : List.Forall₂ (ReadsEntry item world) pairs (dataOf entries)) :
      pairs.filterMap Event.key? = entries.keys := by
    rw [← keys_dataOf]
    generalize dataOf entries = data at each
    induction each with
    | nil => rfl
    | cons reads _ ih =>
        obtain ⟨quoted, content, rfl, -⟩ := reads
        exact congrArg (_ :: ·) ih
  constructor
  · rintro ⟨entries, each, distinct⟩
    refine ⟨fun pair member => ?_, keys each ▸ distinct⟩
    obtain ⟨entry, quoted, content, same, reads⟩ := exists_forall₂_iff.mp ⟨_, each⟩ pair member
    exact ⟨entry.1, quoted, content, same, entry.2, reads⟩
  · rintro ⟨read, distinct⟩
    obtain ⟨data, each⟩ : ∃ data, List.Forall₂ (ReadsEntry item world) pairs data := by
      refine exists_forall₂_iff.mpr fun pair member => ?_
      obtain ⟨key, quoted, content, same, datum, reads⟩ := read pair member
      exact ⟨(key, datum), quoted, content, same, reads⟩
    obtain ⟨entries, rfl⟩ := exists_dataOf values each
    exact ⟨entries, each, keys each ▸ distinct⟩

/-- **Maps.** A group is read as a map exactly if each of its items is a pair of an atom and an item
that is read, and the tokens of the atoms differ; the map has the pairs as its entries, in their
order. Another order of the pairs, here and wherever the shape of the items asks for a map, makes no
difference for whether it is read; what is read is shown as the same text, and handed over as the
same mapping. -/
theorem map_ignoresOrder (item : Shape) (world : World) (pairs : List Event) :
    ((∃ datum, Coerce.map item.coercion world (some (.group pairs)) = .ok datum) ↔
      (∀ pair ∈ pairs, ∃ key quoted content, pair = .group [.atom key quoted, content] ∧
        ∃ datum, item.coercion world (some content) = .ok datum) ∧
      (pairs.filterMap Event.key?).Nodup) ∧
    (∀ datum, Coerce.map item.coercion world (some (.group pairs)) = .ok datum →
      ∃ entries : List (String × Value), datum = .value (.map entries) ∧
        List.Forall₂ (fun pair entry => ∃ quoted content,
          pair = .group [.atom entry.1 quoted, content] ∧
            item.coercion world (some content) = .ok (.value entry.2)) pairs entries) ∧
    ∀ others, item.map.Reorders (.group pairs) (.group others) →
      ((∃ datum, Coerce.map item.coercion world (some (.group pairs)) = .ok datum) ↔
        ∃ datum, Coerce.map item.coercion world (some (.group others)) = .ok datum) ∧
      ∀ datum datum', Coerce.map item.coercion world (some (.group pairs)) = .ok datum →
        Coerce.map item.coercion world (some (.group others)) = .ok datum' →
        ∃ value value' text encoded encoded', datum = .value value ∧ datum' = .value value' ∧
          value.render = .ok text ∧ value'.render = .ok text ∧
          value.encode = .ok encoded ∧ value'.encode = .ok encoded' ∧ encoded.Matches encoded' := by
  have values := item.givesValues world
  have agreeing {left right : List Event} {datum : Datum}
      (reordered : item.map.Reorders (.group left) (.group right))
      (reads : Coerce.map item.coercion world (some (.group left)) = .ok datum) :
      ∃ value value', datum = .value value ∧
        Coerce.map item.coercion world (some (.group right)) = .ok (.value value') ∧
        value.FormsAgree value' := by
    obtain ⟨value, rfl⟩ := item.map.givesValues world _ _ reads
    obtain ⟨value', readsToo, agree⟩ := Shape.exists_agreeing reordered reads
    exact ⟨value, value', rfl, readsToo, agree⟩
  refine ⟨?_, ?_, ?_⟩
  · rw [← Coerce.exists_forall₂_readsEntry_iff values]
    simp only [Coerce.map_eq_ok_iff values]
    exact ⟨fun ⟨_, entries, _, read⟩ => ⟨entries, read⟩,
      fun ⟨entries, read⟩ => ⟨_, entries, rfl, read⟩⟩
  · intro datum reads
    obtain ⟨entries, same, each, -⟩ := (Coerce.map_eq_ok_iff values).mp reads
    exact ⟨entries, same, List.forall₂_map_right_iff.mp each⟩
  · intro others reordered
    refine ⟨⟨fun ⟨_, reads⟩ => ?_, fun ⟨_, reads⟩ => ?_⟩, fun datum datum' reads readsToo => ?_⟩
    · obtain ⟨-, value', -, readsToo, -⟩ := agreeing reordered reads
      exact ⟨_, readsToo⟩
    · obtain ⟨-, value', -, readsToo, -⟩ := agreeing reordered.symm reads
      exact ⟨_, readsToo⟩
    · obtain ⟨value, value', rfl, same, text, encoded, encoded', forms⟩ := agreeing reordered reads
      exact ⟨value, value', text, encoded, encoded', rfl, Except.ok.inj (readsToo.symm.trans same),
        forms⟩

/-- Maps of numbers under the keys of a map. -/
def nestedShape : Shape := .map (.single Coerce.number (.tail _ (.head _)))

/-- A map of maps in another order, at both depths: it is read as well, and shown and encoded in the
same way. -/
theorem map_ignoresOrder_nested : ∃ value value' text,
    Coerce.map nestedShape.coercion {} (some (.group [
        .group [.bare "b", .group [.group [.bare "y", .bare "2"], .group [.bare "x", .bare "1e1"]]],
        .group [.bare "a", .group []]])) = .ok (.value value) ∧
      Coerce.map nestedShape.coercion {} (some (.group [
        .group [.bare "a", .group []],
        .group [.bare "b", .group [.group [.bare "x", .bare "1e1"],
          .group [.bare "y", .bare "2"]]]])) =
          .ok (.value value') ∧
      value ≠ value' ∧ value.render = .ok text ∧ value'.render = .ok text := by
  obtain ⟨-, -, reordering⟩ := map_ignoresOrder nestedShape {} [
    .group [.bare "b", .group [.group [.bare "y", .bare "2"], .group [.bare "x", .bare "1e1"]]],
    .group [.bare "a", .group []]]
  obtain ⟨-, agree⟩ := reordering [.group [.bare "a", .group []],
      .group [.bare "b", .group [.group [.bare "x", .bare "1e1"], .group [.bare "y", .bare "2"]]]]
    ⟨[.group [.bare "b", .group [.group [.bare "x", .bare "1e1"], .group [.bare "y", .bare "2"]]],
        .group [.bare "a", .group []]],
      .cons (.pair _ ⟨_, .cons (.self _) (.cons (.self _) .nil), .swap ..⟩) (.cons (.self _) .nil),
      .swap ..⟩
  obtain ⟨value, value', text, -, -, read, readToo, shown, shownToo, -⟩ := agree
    (.value (.map [("b", .map [("y", .number ⟨false, 2, 0⟩ 0), ("x", .number ⟨false, 1, 1⟩ 0)]),
      ("a", .map [])]))
    (.value (.map [("a", .map []),
      ("b", .map [("x", .number ⟨false, 1, 1⟩ 0), ("y", .number ⟨false, 2, 0⟩ 0)])]))
    rfl rfl
  obtain rfl := Datum.value.inj read
  obtain rfl := Datum.value.inj readToo
  exact ⟨_, _, text, rfl, rfl, by simp, shown, shownToo⟩

end Playbook
