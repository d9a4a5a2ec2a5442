import Mathlib.Data.List.Induction
import Mathlib.Data.List.Nodup
import Playbook.Vocabulary.Core
import Playbook.Vocabulary.PriceOracle

/-! # Registration

A registry is a table under names in lower case. Whatever registrations were tried, it holds the
subsystems that were accepted, each under a name of its own and with commands that have names of
their own; it finds a subsystem by its name in any case and lists all of them in the order of these
names. A registration that is refused writes nothing, and none takes the place of an earlier one. So
neither the order of registration nor that of the commands in a table can be seen in what is found.
-/

namespace Playbook

/-! ### Tables of distinct keys -/

section Keyed
variable {α : Type} (key : α → String) {entries others : List α}

/-- Where the keys differ, the first entry with a key is the only one. -/
theorem find?_key_eq_some_iff (distinct : (entries.map key).Nodup) (name : String) (entry : α) :
    entries.find? (key · == name) = some entry ↔ entry ∈ entries ∧ key entry = name := by
  constructor
  · intro found
    exact ⟨List.mem_of_find?_eq_some found, by simpa using List.find?_some found⟩
  · rintro ⟨member, rfl⟩
    cases found : entries.find? (key · == key entry) with
    | none =>
        rw [List.find?_eq_none] at found
        exact absurd (beq_self_eq_true (key entry)) (found entry member)
    | some first =>
        have same : key first = key entry := by simpa using List.find?_some found
        rw [List.inj_on_of_nodup_map distinct (List.mem_of_find?_eq_some found) member same]

/-- The order of the entries does not matter for what is found under a key. -/
theorem find?_key_eq_of_perm (distinct : (entries.map key).Nodup) (reordered : entries.Perm others)
    (name : String) : others.find? (key · == name) = entries.find? (key · == name) := by
  have distinct' : (others.map key).Nodup := (reordered.map key).nodup_iff.mp distinct
  apply Option.ext
  intro entry
  rw [find?_key_eq_some_iff key distinct, find?_key_eq_some_iff key distinct', reordered.mem_iff]

/-- Entries are sorted in the order of their keys. -/
theorem pairwise_mergeSort_key (entries : List α) :
    (entries.mergeSort fun left right => decide (key left ≤ key right)).Pairwise
      fun left right => key left ≤ key right := by
  have transitive (first second third : α) (below : decide (key first ≤ key second))
      (above : decide (key second ≤ key third)) : decide (key first ≤ key third) :=
    decide_eq_true (String.le_trans (of_decide_eq_true below) (of_decide_eq_true above))
  have total (left right : α) :
      (decide (key left ≤ key right) || decide (key right ≤ key left)) = true := by
    simpa using String.le_total (key left) (key right)
  exact (List.pairwise_mergeSort transitive total entries).imp of_decide_eq_true

/-- Nor does it matter for the order into which they are sorted. -/
theorem mergeSort_key_eq_of_perm (distinct : (entries.map key).Nodup)
    (reordered : entries.Perm others) :
    (others.mergeSort fun left right => decide (key left ≤ key right)) =
      entries.mergeSort fun left right => decide (key left ≤ key right) := by
  refine List.Perm.eq_of_pairwise ?_ (pairwise_mergeSort_key key others)
    (pairwise_mergeSort_key key entries)
    ((List.mergeSort_perm _ _).trans (reordered.symm.trans (List.mergeSort_perm _ _).symm))
  intro left right inOthers inEntries below above
  exact List.inj_on_of_nodup_map distinct
    (reordered.mem_iff.mpr ((List.mergeSort_perm _ _).mem_iff.mp inOthers))
    ((List.mergeSort_perm _ _).mem_iff.mp inEntries) (String.le_antisymm below above)

end Keyed

namespace Subsystem

/-- Two commands of the table have names that are equal up to case. -/
def SharesName (subsystem : Subsystem) : Prop :=
  ∃ (i j : Nat) (first second : Command), i < j ∧ subsystem.commands[i]? = some first ∧
    subsystem.commands[j]? = some second ∧ Text.lower first.name = Text.lower second.name

/-- The commands of the table have names that differ in more than case. -/
def HasDistinctNames (subsystem : Subsystem) : Prop :=
  (subsystem.commands.map fun command => Text.lower command.name).Nodup

/-- The names of commands are distinct if and only if no two commands share one. -/
theorem hasDistinctNames_iff {subsystem : Subsystem} :
    subsystem.HasDistinctNames ↔ ¬ subsystem.SharesName := by
  rw [HasDistinctNames, List.nodup_iff_pairwise_ne, List.pairwise_map, List.pairwise_iff_getElem]
  constructor
  · rintro distinct ⟨i, j, first, second, before, isFirst, isSecond, same⟩
    obtain ⟨hi, rfl⟩ := List.getElem?_eq_some_iff.mp isFirst
    obtain ⟨hj, rfl⟩ := List.getElem?_eq_some_iff.mp isSecond
    exact distinct i j hi hj before same
  · intro apart i j hi hj before same
    exact apart ⟨i, j, _, _, before, List.getElem?_eq_getElem hi, List.getElem?_eq_getElem hj, same⟩

/-- No names are told as shared exactly if the names differ. -/
theorem isEmpty_sharedNames_iff {subsystem : Subsystem} :
    subsystem.sharedNames.isEmpty ↔ subsystem.HasDistinctNames := by
  have listed (name : String) : name ∈ subsystem.sharedNames ↔
      1 < (subsystem.commands.map fun command => Text.lower command.name).count name := by
    rw [sharedNames, (List.mergeSort_perm _ _).mem_iff, List.mem_eraseDups, List.mem_filter,
      decide_eq_true_eq, and_iff_right_iff_imp]
    exact fun several => List.count_pos_iff.mp (Nat.zero_lt_of_lt several)
  rw [HasDistinctNames, List.nodup_iff_count_le_one, List.isEmpty_iff,
    List.eq_nil_iff_forall_not_mem]
  simp only [listed, Nat.not_lt]

end Subsystem

namespace Registry

/-- A registry of distinct names, all of whose tables have distinct names. -/
structure IsTable (registry : Registry) : Prop where
  distinct : (registry.entries.map Subsystem.key).Nodup
  tables : ∀ subsystem ∈ registry.entries, subsystem.HasDistinctNames

/-- A registry without entries is a table. -/
theorem isTable_empty : IsTable {} := ⟨List.nodup_nil, List.forall_mem_nil _⟩

/-- A subsystem is added to a table if it keeps the names distinct. -/
theorem isTable_append_iff {registry : Registry} (isTable : registry.IsTable)
    {subsystem : Subsystem} :
    IsTable ⟨registry.entries ++ [subsystem]⟩ ↔
      (∀ other ∈ registry.entries, other.key ≠ subsystem.key) ∧ subsystem.HasDistinctNames := by
  constructor
  · intro ⟨distinct, tables⟩
    rw [List.map_append, List.nodup_append] at distinct
    refine ⟨fun other member => ?_, tables subsystem (by simp)⟩
    exact distinct.2.2 other.key (List.mem_map_of_mem member) subsystem.key (by simp)
  · rintro ⟨apart, distinctNames⟩
    refine ⟨?_, ?_⟩
    · rw [List.map_append, List.nodup_append]
      exact ⟨isTable.distinct, by simp, by simpa using apart⟩
    · rw [List.forall_mem_append]
      exact ⟨isTable.tables, List.forall_mem_singleton.mpr distinctNames⟩

/-- Some of the first entries of a table are a table. -/
theorem IsTable.of_append {entries more : List Subsystem} (isTable : IsTable ⟨entries ++ more⟩) :
    IsTable ⟨entries⟩ :=
  ⟨(List.nodup_append.mp (List.map_append ▸ isTable.distinct)).1, fun subsystem member =>
    isTable.tables subsystem (List.mem_append_left more member)⟩

/-- A registry contains a name if an entry has it, whatever the case. -/
theorem contains_iff {registry : Registry} {name : String} :
    registry.contains name ↔ ∃ subsystem ∈ registry.entries, subsystem.key = Text.lower name := by
  simp [contains, get?, List.find?_isSome]

/-- A registration writes to the registry only if it passes the checks. -/
theorem attempt_eq (registry : Registry) (subsystem : Subsystem) :
    registry.attempt subsystem =
      if registry.contains subsystem.name then
        (.error (.registeredTwice subsystem.name), registry)
      else if subsystem.sharedNames.isEmpty then (.ok (), ⟨registry.entries ++ [subsystem]⟩)
      else (.error (.duplicateCommands subsystem.name subsystem.sharedNames), registry) := by
  have checks : registry.attempt subsystem =
      (if registry.contains subsystem.name then throw (.registeredTwice subsystem.name)
        else if subsystem.sharedNames.isEmpty then
          set (Registry.mk (registry.entries ++ [subsystem]))
        else throw (.duplicateCommands subsystem.name subsystem.sharedNames) :
          ExceptT Misdeclaration (StateM Registry) Unit).run.run registry := by
    unfold attempt registering
    cases subsystem.sharedNames.isEmpty <;> rfl
  rw [checks]
  split_ifs <;> rfl

/-- A registration that is accepted adds its subsystem; its refusal names the first check that
fails. -/
theorem register_eq (registry : Registry) (subsystem : Subsystem) :
    registry.register subsystem =
      if registry.contains subsystem.name then .error (.registeredTwice subsystem.name)
      else if subsystem.sharedNames.isEmpty then .ok ⟨registry.entries ++ [subsystem]⟩
      else .error (.duplicateCommands subsystem.name subsystem.sharedNames) := by
  rw [register, attempt_eq]
  split_ifs <;> rfl

/-- The registry after a registration that was accepted. -/
theorem attempt_of_accepted {registry next : Registry} {subsystem : Subsystem}
    (accepted : registry.register subsystem = .ok next) :
    (registry.attempt subsystem).2 = next := by
  rw [register_eq] at accepted
  rw [attempt_eq]
  split_ifs at accepted ⊢
  exact Except.ok.inj accepted

/-- A registration that is refused leaves the registry as it was. -/
theorem attempt_of_refused {registry : Registry} {subsystem : Subsystem} {fault : Misdeclaration}
    (refusal : registry.register subsystem = .error fault) :
    (registry.attempt subsystem).2 = registry := by
  rw [register_eq] at refusal
  rw [attempt_eq]
  split_ifs at refusal ⊢
  all_goals rfl

/-- A registration is accepted exactly if the registry stays a table; the subsystem comes last. -/
theorem register_eq_ok_iff {registry next : Registry} (isTable : registry.IsTable)
    {subsystem : Subsystem} :
    registry.register subsystem = .ok next ↔
      next = ⟨registry.entries ++ [subsystem]⟩ ∧ next.IsTable := by
  have known : registry.contains subsystem.name ↔
      ¬ ∀ other ∈ registry.entries, other.key ≠ subsystem.key := by
    rw [contains_iff]
    simp [Subsystem.key]
  constructor
  · intro registers
    rw [register_eq] at registers
    split_ifs at registers with taken plain
    obtain rfl := Except.ok.inj registers
    refine ⟨rfl, (isTable_append_iff isTable).mpr ⟨?_, Subsystem.isEmpty_sharedNames_iff.mp plain⟩⟩
    exact Decidable.not_not.mp (mt known.mpr taken)
  · rintro ⟨rfl, stays⟩
    obtain ⟨apart, distinctNames⟩ := (isTable_append_iff isTable).mp stays
    rw [register_eq, if_neg fun taken => known.mp taken apart,
      if_pos (Subsystem.isEmpty_sharedNames_iff.mpr distinctNames)]

/-- The subsystem of a name is the entry that has it, whatever the case. -/
theorem get_eq_ok_iff {registry : Registry} (isTable : registry.IsTable) {name : String}
    {subsystem : Subsystem} :
    registry.get name = .ok subsystem ↔
      subsystem ∈ registry.entries ∧ subsystem.key = Text.lower name := by
  rw [← find?_key_eq_some_iff Subsystem.key isTable.distinct, get, get?]
  cases registry.entries.find? (·.key == Text.lower name) <;> simp

/-- Sorting keeps the entries. -/
theorem mem_sorted_iff {registry : Registry} {subsystem : Subsystem} :
    subsystem ∈ registry.sorted ↔ subsystem ∈ registry.entries :=
  (List.mergeSort_perm _ _).mem_iff

/-- The subsystems are listed in the order of their keys. -/
theorem pairwise_sorted (registry : Registry) :
    registry.sorted.Pairwise fun left right => left.key ≤ right.key :=
  pairwise_mergeSort_key Subsystem.key registry.entries

/-- What a table answers does not depend on the order of its entries. -/
theorem IsTable.of_perm {registry other : Registry} (isTable : registry.IsTable)
    (reordered : registry.entries.Perm other.entries) :
    other.IsTable ∧ other.sorted = registry.sorted ∧ other.get = registry.get ∧
      other.contains = registry.contains := by
  have found : other.get? = registry.get? :=
    funext fun name => find?_key_eq_of_perm Subsystem.key isTable.distinct reordered
      (Text.lower name)
  refine ⟨⟨(reordered.map _).nodup_iff.mp isTable.distinct, fun subsystem member =>
    isTable.tables subsystem (reordered.mem_iff.mpr member)⟩,
    mergeSort_key_eq_of_perm Subsystem.key isTable.distinct reordered, ?_, ?_⟩
  · funext name
    rw [get, get, found]
  · funext name
    rw [contains, contains, found]

/-! ### Sequences of registrations -/

/-- The registry after a registration was tried, whether it was accepted or refused. -/
def afterCall (registry : Registry) (subsystem : Subsystem) : Registry :=
  (registry.attempt subsystem).2

/-- The registry after registrations were tried one after the other, none having been made before.
-/
def afterCalls (calls : List Subsystem) : Registry := calls.foldl afterCall {}

/-- Among registrations that were tried one after the other, that of a subsystem was accepted. -/
def WasAccepted (calls : List Subsystem) (subsystem : Subsystem) : Prop :=
  ∃ before after next, calls = before ++ subsystem :: after ∧
    (afterCalls before).register subsystem = .ok next

/-- The last of several calls finds the registry that the others have left. -/
theorem afterCalls_append_singleton (calls : List Subsystem) (subsystem : Subsystem) :
    afterCalls (calls ++ [subsystem]) = (afterCalls calls).afterCall subsystem :=
  List.foldl_append

/-- Only the last of the registrations is new. -/
theorem wasAccepted_append_singleton_iff {calls : List Subsystem} {last subsystem : Subsystem} :
    WasAccepted (calls ++ [last]) subsystem ↔ WasAccepted calls subsystem ∨
      subsystem = last ∧ ∃ next, (afterCalls calls).register subsystem = .ok next := by
  constructor
  · rintro ⟨before, after, next, split, accepted⟩
    rcases List.eq_nil_or_concat after with rfl | ⟨more, final, rfl⟩
    · obtain ⟨rfl, same⟩ := List.append_inj' split rfl
      exact .inr ⟨(List.singleton_inj.mp same).symm, next, accepted⟩
    · rw [List.concat_eq_append, ← List.cons_append, ← List.append_assoc] at split
      exact .inl ⟨before, more, next, (List.append_inj' split rfl).1, accepted⟩
  · rintro (⟨before, after, next, rfl, accepted⟩ | ⟨rfl, next, accepted⟩)
    · exact ⟨before, after ++ [last], next, by simp, accepted⟩
    · exact ⟨calls, [], next, rfl, accepted⟩

/-- One registration keeps the table, and all that is in it in front. -/
theorem IsTable.afterCall {registry : Registry} (isTable : registry.IsTable)
    (subsystem : Subsystem) :
    (registry.afterCall subsystem).IsTable ∧
      registry.entries <+: (registry.afterCall subsystem).entries := by
  cases registers : registry.register subsystem with
  | error fault =>
      rw [Registry.afterCall, attempt_of_refused registers]
      exact ⟨isTable, List.prefix_rfl⟩
  | ok next =>
      rw [Registry.afterCall, attempt_of_accepted registers]
      obtain ⟨rfl, stays⟩ := (register_eq_ok_iff isTable).mp registers
      exact ⟨stays, List.prefix_append _ _⟩

/-- After any calls a registry is a table. -/
theorem isTable_afterCalls (calls : List Subsystem) : (afterCalls calls).IsTable := by
  induction calls using List.reverseRecOn with
  | nil => exact isTable_empty
  | append_singleton calls last ih =>
      rw [afterCalls_append_singleton]
      exact (ih.afterCall last).1

/-- The registry holds what was accepted. -/
theorem mem_afterCalls_iff {calls : List Subsystem} {subsystem : Subsystem} :
    subsystem ∈ (afterCalls calls).entries ↔ WasAccepted calls subsystem := by
  induction calls using List.reverseRecOn with
  | nil => simp [afterCalls, WasAccepted]
  | append_singleton calls last ih =>
      rw [wasAccepted_append_singleton_iff, ← ih, afterCalls_append_singleton, afterCall]
      cases registers : (afterCalls calls).register last with
      | error fault =>
          have refused : ¬(subsystem = last ∧
              ∃ next, (afterCalls calls).register subsystem = .ok next) := by
            rintro ⟨rfl, next, accepted⟩
            cases registers.symm.trans accepted
          rw [attempt_of_refused registers]
          exact (or_iff_left refused).symm
      | ok next =>
          rw [attempt_of_accepted registers]
          obtain ⟨rfl, -⟩ := (register_eq_ok_iff (isTable_afterCalls calls)).mp registers
          rw [List.mem_append, List.mem_singleton]
          refine or_congr_right ⟨?_, And.left⟩
          rintro rfl
          exact ⟨rfl, _, registers⟩

/-- More calls only add entries at the end. -/
theorem entries_afterCalls_append (calls more : List Subsystem) :
    (afterCalls calls).entries <+: (afterCalls (calls ++ more)).entries := by
  induction more using List.reverseRecOn with
  | nil => simp only [List.append_nil, List.prefix_rfl]
  | append_singleton more last ih =>
      rw [← List.append_assoc, afterCalls_append_singleton]
      exact ih.trans ((isTable_afterCalls (calls ++ more)).afterCall last).2

/-- A registration is refused if its name was taken by one that was accepted, up to case, or if its
commands share a name. -/
theorem exists_register_eq_error_iff {calls : List Subsystem} {subsystem : Subsystem} :
    (∃ fault, (afterCalls calls).register subsystem = .error fault) ↔
      (∃ earlier, WasAccepted calls earlier ∧ Text.lower earlier.name = Text.lower subsystem.name) ∨
        subsystem.SharesName := by
  have isTable := isTable_afterCalls calls
  have refused : (∃ fault, (afterCalls calls).register subsystem = .error fault) ↔
      ¬ ∃ next, (afterCalls calls).register subsystem = .ok next := by
    cases (afterCalls calls).register subsystem <;> simp
  simp only [refused, register_eq_ok_iff isTable, exists_eq_left, isTable_append_iff isTable,
    Subsystem.hasDistinctNames_iff, mem_afterCalls_iff, Classical.not_and_iff_not_or_not,
    not_forall, Classical.not_not]
  simp [Subsystem.key]

/-- A registration that is refused leaves no trace in what follows. -/
theorem afterCalls_of_refused {before : List Subsystem} {refused : Subsystem}
    {fault : Misdeclaration}
    (refusal : (afterCalls before).register refused = .error fault) (after : List Subsystem) :
    afterCalls (before ++ refused :: after) = afterCalls (before ++ after) := by
  have unchanged : (afterCalls before).afterCall refused = afterCalls before :=
    attempt_of_refused refusal
  calc afterCalls (before ++ refused :: after)
      = after.foldl afterCall ((afterCalls before).afterCall refused) := List.foldl_append
    _ = after.foldl afterCall (afterCalls before) := by rw [unchanged]
    _ = afterCalls (before ++ after) := List.foldl_append.symm

/-- What was accepted stays accepted, whatever is tried later. -/
theorem WasAccepted.append {calls : List Subsystem} {subsystem : Subsystem}
    (accepted : WasAccepted calls subsystem) (more : List Subsystem) :
    WasAccepted (calls ++ more) subsystem :=
  mem_afterCalls_iff.mp ((entries_afterCalls_append calls more).subset
    (mem_afterCalls_iff.mpr accepted))

/-- The registry answers as the table of some subsystems: it finds each of them under its name in
any case, finds nothing else, and lists each of them once, in the order of the names in lower case.
-/
structure Tabulates (registry : Registry) (holds : Subsystem → Prop) : Prop where
  gets : ∀ name subsystem,
    registry.get name = .ok subsystem ↔ holds subsystem ∧ subsystem.key = Text.lower name
  contains : ∀ name, registry.contains name ↔
    ∃ subsystem, holds subsystem ∧ subsystem.key = Text.lower name
  lists : ∀ subsystem, subsystem ∈ registry.sorted ↔ holds subsystem
  ordered : registry.sorted.Pairwise fun left right => left.key < right.key

/-- A table of distinct names tabulates its entries. -/
theorem IsTable.tabulates {registry : Registry} (isTable : registry.IsTable) :
    registry.Tabulates (· ∈ registry.entries) where
  gets _ _ := get_eq_ok_iff isTable
  contains _ := contains_iff
  lists _ := mem_sorted_iff
  ordered := by
    have distinct : registry.sorted.Pairwise fun left right => left.key ≠ right.key := by
      rw [← List.pairwise_map, ← List.nodup_iff_pairwise_ne]
      exact ((List.mergeSort_perm _ _).map _).nodup_iff.mpr isTable.distinct
    exact (registry.pairwise_sorted.and distinct).imp fun ⟨below, differ⟩ =>
      Std.lt_of_le_of_ne below differ

/-- After any calls a registry tabulates what was accepted. -/
theorem tabulates_afterCalls (calls : List Subsystem) :
    (afterCalls calls).Tabulates (WasAccepted calls) := by
  have accepted : (· ∈ (afterCalls calls).entries) = WasAccepted calls :=
    funext fun _ => propext mem_afterCalls_iff
  rw [← accepted]
  exact (isTable_afterCalls calls).tabulates

/-! ### Lists of registrations -/

/-- A list of subsystems is registered without a refusal exactly if it is a table, which it then is.
-/
theorem foldlM_register_eq_ok_iff {registry next : Registry} (isTable : registry.IsTable)
    {subsystems : List Subsystem} :
    subsystems.foldlM register registry = .ok next ↔
      next = ⟨registry.entries ++ subsystems⟩ ∧ next.IsTable := by
  induction subsystems generalizing registry with
  | nil =>
      rw [List.append_nil]
      constructor
      · rintro ⟨⟩
        exact ⟨rfl, isTable⟩
      · rintro ⟨rfl, -⟩
        rfl
  | cons first rest ih =>
      have together : registry.entries ++ first :: rest =
          registry.entries ++ [first] ++ rest := by simp
      rw [List.foldlM_cons, together]
      constructor
      · intro registers
        cases registered : registry.register first with
        | error fault =>
            rw [registered] at registers
            cases registers
        | ok middle =>
            rw [registered] at registers
            obtain ⟨rfl, stays⟩ := (register_eq_ok_iff isTable).mp registered
            exact (ih stays).mp registers
      · rintro ⟨rfl, stays⟩
        have middle : IsTable ⟨registry.entries ++ [first]⟩ := stays.of_append
        rw [(register_eq_ok_iff isTable).mpr ⟨rfl, middle⟩]
        exact (ih middle).mpr ⟨rfl, stays⟩

/-- A registry is made of a list if the list is a table, and then of nothing else. -/
theorem ofList_eq_ok_iff {subsystems : List Subsystem} {registry : Registry} :
    ofList subsystems = .ok registry ↔ registry = ⟨subsystems⟩ ∧ registry.IsTable :=
  foldlM_register_eq_ok_iff isTable_empty

/-- A list that registers leaves what its registrations, tried one after the other, leave. -/
theorem afterCalls_of_ofList {subsystems : List Subsystem} {registry : Registry}
    (registers : ofList subsystems = .ok registry) : afterCalls subsystems = registry := by
  have run (start : Registry) : ∀ next, subsystems.foldlM register start = .ok next →
      subsystems.foldl afterCall start = next := by
    clear registers
    induction subsystems generalizing start with
    | nil =>
        rintro next ⟨⟩
        rfl
    | cons first rest ih =>
        intro next registers
        rw [List.foldlM_cons] at registers
        rw [List.foldl_cons]
        cases registered : start.register first with
        | error fault =>
            rw [registered] at registers
            cases registers
        | ok middle =>
            rw [registered] at registers
            rw [afterCall, attempt_of_accepted registered]
            exact ih middle next registers
  exact run {} registry registers

/-- A list that registers does so in any order, and answers the same. -/
theorem exists_ofList_of_perm {subsystems others : List Subsystem} {registry : Registry}
    (registers : ofList subsystems = .ok registry) (reordered : subsystems.Perm others) :
    ∃ other, ofList others = .ok other ∧ other.sorted = registry.sorted ∧ other.get = registry.get ∧
      other.contains = registry.contains := by
  obtain ⟨rfl, isTable⟩ := ofList_eq_ok_iff.mp registers
  have samePerm : (⟨subsystems⟩ : Registry).entries.Perm (⟨others⟩ : Registry).entries := reordered
  obtain ⟨isTable', same⟩ := isTable.of_perm samePerm
  exact ⟨⟨others⟩, ofList_eq_ok_iff.mpr ⟨rfl, isTable'⟩, same⟩

end Registry

/-- Commands that have names of their own are found in any order. -/
theorem Subsystem.find_of_perm {subsystem : Subsystem} (distinct : subsystem.HasDistinctNames)
    {commands : List Command} (reordered : subsystem.commands.Perm commands)
    (statement : Statement) :
    ({ subsystem with commands } : Subsystem).table.find statement =
      subsystem.table.find statement := by
  have found (token : String) : commands.find? (·.isNamed token) =
      subsystem.commands.find? (·.isNamed token) := by
    unfold Command.isNamed
    exact find?_key_eq_of_perm (fun command : Command => Text.lower command.name) distinct
      reordered _
  simp only [CommandTable.find, Subsystem.table, found]

namespace Registry

/-- **Registration.** Whatever registrations were tried, the registry tabulates those that were
accepted. The next one is refused exactly if its name was taken, up to case, or if its commands
share a name up to case; a refusal leaves no trace, and what was accepted is found whatever comes
later. A list that registers without a refusal does so in any order, with the same answers, and the
commands in each of its tables are found in any order. -/
theorem registration_makesTable (calls : List Subsystem) :
    (afterCalls calls).Tabulates (WasAccepted calls) ∧
    (∀ next, (∃ fault, (afterCalls calls).register next = .error fault) ↔
      (∃ earlier, WasAccepted calls earlier ∧ Text.lower earlier.name = Text.lower next.name) ∨
        next.SharesName) ∧
    (∀ refused fault, (afterCalls calls).register refused = .error fault →
      ∀ more, afterCalls (calls ++ refused :: more) = afterCalls (calls ++ more)) ∧
    (∀ accepted, WasAccepted calls accepted → ∀ more, WasAccepted (calls ++ more) accepted ∧
      ∀ name, Text.lower name = accepted.key →
        (afterCalls (calls ++ more)).get name = .ok accepted) ∧
    (∀ registry, ofList calls = .ok registry → afterCalls calls = registry ∧
      (∀ others, calls.Perm others → ∃ other, ofList others = .ok other ∧
        other.sorted = registry.sorted ∧ other.get = registry.get ∧
        other.contains = registry.contains) ∧
      (∀ subsystem ∈ calls, ∀ commands, subsystem.commands.Perm commands → ∀ statement,
        ({ subsystem with commands } : Subsystem).table.find statement =
          subsystem.table.find statement)) := by
  refine ⟨tabulates_afterCalls calls, fun _ => exists_register_eq_error_iff,
    fun _ _ refusal => afterCalls_of_refused refusal, ?_, ?_⟩
  · intro accepted was more
    have still := was.append more
    exact ⟨still, fun name same =>
      ((tabulates_afterCalls _).gets name accepted).mpr ⟨still, same.symm⟩⟩
  · intro registry registers
    refine ⟨afterCalls_of_ofList registers, fun _ => exists_ofList_of_perm registers, ?_⟩
    obtain ⟨rfl, isTable⟩ := ofList_eq_ok_iff.mp registers
    exact fun subsystem member _ => Subsystem.find_of_perm (isTable.tables subsystem member)

/-- After a table and the notes, a namesake of the notes in other letters is refused and leaves no
trace; the two tables can be swapped, and so can the commands of the notes. -/
theorem registration_makesTable_namesake :
    ∃ oracle notes namesake fault registry swapped,
      oracle = ⟨"Oracle", [PriceOracle.addressCommand], none⟩ ∧
      notes = ⟨"Notes", [Core.printCommand, Core.historyCommand], none⟩ ∧
      ofList [oracle, notes] = .ok registry ∧
      ofList [notes, oracle] = .ok swapped ∧ swapped.sorted = registry.sorted ∧
      namesake = ⟨"NOTES", [], none⟩ ∧
      (afterCalls [oracle, notes]).register namesake = .error fault ∧
      afterCalls [oracle, notes, namesake] = afterCalls [oracle, notes] ∧
      (afterCalls [oracle, notes, namesake]).get "notes" = .ok notes ∧
      ∀ statement,
        ({ notes with commands := notes.commands.reverse } : Subsystem).table.find statement =
        notes.table.find statement := by
  obtain ⟨oracle, isOracle⟩ : ∃ oracle : Subsystem,
    oracle = ⟨"Oracle", [PriceOracle.addressCommand], none⟩ := ⟨_, rfl⟩
  obtain ⟨notes, isNotes⟩ : ∃ notes : Subsystem,
    notes = ⟨"Notes", [Core.printCommand, Core.historyCommand], none⟩ := ⟨_, rfl⟩
  obtain ⟨-, -, leavesNoTrace, stays, ofLists⟩ := registration_makesTable [oracle, notes]
  have isTable : IsTable ⟨[oracle, notes]⟩ := by
    subst isOracle isNotes
    refine ⟨by decide +kernel, ?_⟩
    unfold Subsystem.HasDistinctNames
    decide +kernel
  have registers := ofList_eq_ok_iff.mpr ⟨rfl, isTable⟩
  obtain ⟨sameRegistry, anyOrder, anyCommands⟩ := ofLists _ registers
  obtain ⟨swapped, registers', sameList, -⟩ := anyOrder _ (.swap _ _ [])
  have refusal : (afterCalls [oracle, notes]).register ⟨"NOTES", [], none⟩ =
      .error (.registeredTwice "NOTES") := by
    rw [sameRegistry, isOracle, isNotes]
    rfl
  have accepted : WasAccepted [oracle, notes] notes := by
    rw [← mem_afterCalls_iff, sameRegistry]
    exact List.mem_cons_of_mem _ (List.mem_singleton_self notes)
  exact ⟨oracle, notes, _, _, _, swapped, isOracle, isNotes, registers, registers', sameList, rfl,
    refusal, leavesNoTrace _ _ refusal [], (stays notes accepted [_]).2 "notes"
      (by rw [isNotes]; rfl),
    anyCommands notes (by simp) _ notes.commands.reverse_perm.symm⟩

end Registry
end Playbook
