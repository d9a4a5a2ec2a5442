import Playbook.Proofs.Command.Argument

/-! # What binding gives

Binding succeeds when every parameter of a command can be given its argument and no input is left
over. Otherwise the first parameter that fails decides the failure, and inputs that are left over
count only when none fails.
-/

namespace Playbook

namespace Table

/-- An entry is found under its key when all keys differ. -/
theorem get?_of_mem {α : Type} {table : Table α} (differ : table.keys.Nodup) {key : String}
    {entry : α} (member : (key, entry) ∈ table) : table.get? key = some entry := by
  induction table with
  | nil => cases member
  | cons head rest ih =>
      obtain ⟨fresh, others⟩ := List.nodup_cons.mp differ
      rcases List.mem_cons.mp member with rfl | later
      · exact if_pos rfl
      · have other : key ≠ head.1 := by
          rintro rfl
          exact fresh (List.mem_map.mpr ⟨_, later, rfl⟩)
        exact (if_neg other).trans (ih others later)

end Table

/-- Binding gives the first parameter its argument and binds the others to what is left. -/
theorem bindFrom_cons_outcome {draft : ParameterDraft} {intake : Intake} (asks : draft.Asks intake)
    {world : World} (values : draft.mapped = true → draft.ReadsValues world) (command : String)
    (parameters : List Parameter) (inputs : List Event) (place : Nat) :
    ∃ result, draft.Gives command world inputs place result ∧
      bindFrom command world (draft.parameter intake :: parameters)
          (min place inputs.length + 1) (inputs.drop place) = do
        let datum ← result
        let bound ← bindFrom command world parameters
          (min (draft.next inputs place) inputs.length + 1) (inputs.drop (draft.next inputs place))
        return (draft.name, datum) :: bound := by
  obtain ⟨result, gives, takes⟩ := draft.take_outcome asks values command inputs place
  have onward := draft.le_next inputs place
  have position : min place inputs.length + 1 +
      ((inputs.drop place).length - (inputs.drop (draft.next inputs place)).length) =
        min (draft.next inputs place) inputs.length + 1 := by
    simp only [List.length_drop]
    omega
  refine ⟨result, gives, ?_⟩
  rw [bindFrom, takes]
  cases result with
  | error failure => rfl
  | ok datum =>
      change bindFrom command world parameters _ _ >>= _ =
        bindFrom command world parameters _ _ >>= _
      rw [position]
      rfl

/-- Parameters from `place` on that are all given their arguments, and what they are bound to. -/
inductive Gathered (command : String) (world : World) (inputs : List Event) :
    Nat → List ParameterDraft → Bound → Prop where
  | nil {place : Nat} : Gathered command world inputs place [] []
  | cons {place : Nat} {draft : ParameterDraft} {drafts : List ParameterDraft} {datum : Datum}
      {bound : Bound} (gives : draft.Gives command world inputs place (.ok datum))
      (others : Gathered command world inputs (place + explicitCount [draft]) drafts bound) :
      Gathered command world inputs place (draft :: drafts) ((draft.name, datum) :: bound)

namespace Gathered
variable {command : String} {world : World} {inputs : List Event} {place : Nat} {bound : Bound}

/-- Arguments are bound under the names of their parameters, in the order of declaration. -/
theorem keys_eq {drafts : List ParameterDraft}
    (gathered : Gathered command world inputs place drafts bound) :
    bound.keys = drafts.map (·.name) := by
  induction gathered with
  | nil => rfl
  | cons gives others ih => exact congrArg _ ih

/-- Each parameter is bound, at the place that the explicit parameters before it give. -/
theorem exists_of_split {before after : List ParameterDraft} {draft : ParameterDraft}
    (gathered : Gathered command world inputs place (before ++ draft :: after) bound) :
    ∃ datum, (draft.name, datum) ∈ bound ∧
      draft.Gives command world inputs (place + explicitCount before) (.ok datum) := by
  induction before generalizing place bound with
  | nil =>
      cases gathered with
      | cons gives others => exact ⟨_, List.mem_cons_self, gives⟩
  | cons first before ih =>
      cases gathered with
      | cons gives others =>
          obtain ⟨datum, member, later⟩ := ih others
          refine ⟨datum, List.mem_cons_of_mem _ member, ?_⟩
          rw [explicitCount_cons, ← Nat.add_assoc]
          exact later

end Gathered

/-- The failure of inputs that are left over from `place` on. -/
def surplusFailure (command : String) (inputs : List Event) (place : Nat) : Failure :=
  (Failure.ofCause (.extraArguments ((inputs.drop place).map (·.render)))).annotate
    { command := some command, position := some (place + 1) }

/-- Parameters from `place` on of which one fails, or which leave inputs over, and the failure. -/
inductive Refused (command : String) (world : World) (inputs : List Event) :
    Nat → List ParameterDraft → Failure → Prop where
  | surplus {place : Nat} (surplus : place < inputs.length) :
      Refused command world inputs place [] (surplusFailure command inputs place)
  | fails {place : Nat} {draft : ParameterDraft} {drafts : List ParameterDraft} {failure : Failure}
      (gives : draft.Gives command world inputs place (.error failure)) :
      Refused command world inputs place (draft :: drafts) failure
  | later {place : Nat} {draft : ParameterDraft} {drafts : List ParameterDraft} {datum : Datum}
      {failure : Failure} (gives : draft.Gives command world inputs place (.ok datum))
      (single : draft.variadic = false)
      (others : Refused command world inputs (place + explicitCount [draft]) drafts failure) :
      Refused command world inputs place (draft :: drafts) failure

/-- No input is left over once the parameters from `place` on have taken theirs. -/
def TakesAll (inputs : List Event) (place : Nat) (drafts : List ParameterDraft) : Prop :=
  inputs.length ≤ place + explicitCount drafts ∨ ∃ draft ∈ drafts, draft.variadic = true

/-- Whether all events are taken is settled after the first draft as before it, if that is not
variadic. -/
theorem takesAll_cons {draft : ParameterDraft} (single : draft.variadic = false)
    (inputs : List Event) (place : Nat) (drafts : List ParameterDraft) :
    TakesAll inputs place (draft :: drafts) ↔
      TakesAll inputs (place + explicitCount [draft]) drafts := by
  rw [TakesAll, TakesAll, explicitCount_cons, Nat.add_assoc]
  simp [single]

/-- Binding goes one of two ways. The induction is on the drafts with their place; the inputs that
are left and the position of the first of them follow from the place. -/
theorem bindFrom_outcome {drafts : List ParameterDraft} {parameters : List Parameter}
    (checked : List.Forall₂ (fun draft parameter => draft.check = .ok parameter) drafts parameters)
    (last : drafts.Pairwise fun earlier _ => earlier.variadic = false) {world : World}
    (values : ∀ draft ∈ drafts, draft.mapped = true → draft.ReadsValues world) (command : String)
    (inputs : List Event) (place : Nat) :
    (∃ bound, bindFrom command world parameters (min place inputs.length + 1) (inputs.drop place) =
        .ok bound ∧ Gathered command world inputs place drafts bound ∧
          TakesAll inputs place drafts) ∨
    ∃ failure, bindFrom command world parameters (min place inputs.length + 1) (inputs.drop place) =
        .error failure ∧ Refused command world inputs place drafts failure := by
  induction checked generalizing place with
  | nil =>
      rcases Nat.lt_or_ge place inputs.length with surplus | taken
      · refine .inr ⟨_, ?_, .surplus surplus⟩
        rw [Nat.min_eq_left (Nat.le_of_lt surplus), List.drop_eq_getElem_cons surplus,
          surplusFailure, List.drop_eq_getElem_cons surplus]
        rfl
      · refine .inl ⟨[], ?_, .nil, .inl taken⟩
        rw [List.drop_of_length_le taken]
        rfl
  | @cons draft parameter drafts parameters first checked ih =>
      obtain ⟨intake, asks, rfl⟩ := ParameterDraft.check_eq_ok first
      obtain ⟨single, last⟩ := List.pairwise_cons.mp last
      obtain ⟨own, values⟩ := List.forall_mem_cons.mp values
      obtain ⟨result, gives, binds⟩ :=
        bindFrom_cons_outcome asks own command parameters inputs place
      rw [binds]
      cases result with
      | error failure => exact .inr ⟨failure, rfl, .fails gives⟩
      | ok datum =>
          cases variadic : draft.variadic with
          | true =>
              -- a variadic parameter is the last one, and what is left after it is empty
              cases drafts with
              | cons other drafts => simp [single other] at variadic
              | nil =>
                  cases checked
                  rw [ParameterDraft.drop_next_of_variadic variadic]
                  exact .inl ⟨_, rfl, .cons gives .nil, .inr ⟨draft, List.mem_cons_self, variadic⟩⟩
          | false =>
              rw [ParameterDraft.next_of_single variadic]
              rcases ih last values (place + explicitCount [draft]) with
                ⟨bound, others, gathered, takes⟩ | ⟨failure, others, refused⟩
              · refine .inl ⟨_, ?_, .cons gives gathered, ?_⟩
                · simp only [bind, Except.bind, others]
                  rfl
                · exact (takesAll_cons variadic ..).mpr takes
              · refine .inr ⟨failure, ?_, .later gives variadic refused⟩
                simp only [bind, Except.bind, others]

/-- The failure is that of the first parameter that fails; if none fails, inputs are left over. -/
theorem Refused.first {command : String} {world : World} {inputs : List Event} {place : Nat}
    {drafts : List ParameterDraft} {failure : Failure}
    (refused : Refused command world inputs place drafts failure) :
    (∃ before draft after bound, drafts = before ++ draft :: after ∧
      Gathered command world inputs place before bound ∧
      draft.Gives command world inputs (place + explicitCount before) (.error failure)) ∨
    (∃ bound, Gathered command world inputs place drafts bound) ∧
      ¬TakesAll inputs place drafts ∧
      failure = surplusFailure command inputs (place + explicitCount drafts) := by
  induction refused with
  | @surplus place surplus =>
      refine .inr ⟨⟨[], .nil⟩, ?_, rfl⟩
      rintro (taken | ⟨draft, member, -⟩)
      · exact Nat.not_le_of_lt surplus taken
      · cases member
  | @fails place draft drafts failure gives =>
      exact .inl ⟨[], draft, drafts, [], rfl, .nil, gives⟩
  | @later place draft drafts datum failure gives single others ih =>
      rcases ih with ⟨before, next, after, bound, rfl, gathered, fails⟩ |
        ⟨⟨bound, gathered⟩, surplus, rfl⟩
      · refine .inl ⟨draft :: before, next, after, _, rfl, .cons gives gathered, ?_⟩
        rw [explicitCount_cons, ← Nat.add_assoc]
        exact fails
      · refine .inr ⟨⟨_, .cons gives gathered⟩, ?_, ?_⟩
        · exact fun takes => surplus ((takesAll_cons single ..).mp takes)
        · rw [explicitCount_cons draft drafts, Nat.add_assoc]

/-- The drafts of the parameters of a command, as far as their declarations are checked. -/
structure Arranged (drafts : List ParameterDraft) : Prop where
  /-- Names differ. -/
  differ : (drafts.map (·.name)).Nodup
  /-- An implicit parameter is not variadic. -/
  apart : ∀ draft ∈ drafts, draft.implicit = true → draft.variadic = false
  /-- No parameter comes after a variadic one. -/
  last : drafts.Pairwise fun earlier _ => earlier.variadic = false

/-- What holds of all items but the last holds of the earlier of any two. -/
theorem pairwise_of_forall_dropLast {α : Type} {P : α → Prop} {items : List α}
    (holds : ∀ item ∈ items.dropLast, P item) : items.Pairwise fun earlier _ => P earlier := by
  induction items with
  | nil => exact .nil
  | cons item items ih =>
      cases items with
      | nil => exact List.pairwise_singleton ..
      | cons next others =>
          obtain ⟨first, holds⟩ := List.forall_mem_cons.mp holds
          exact .cons (fun _ _ => first) (ih holds)

namespace Arranged
variable {drafts : List ParameterDraft}

/-- The drafts of a command that is accepted are well arranged. -/
theorem of_checked {command : Command} (checked : List.Forall₂
    (fun draft parameter => draft.check = .ok parameter) drafts command.parameters) :
    Arranged drafts := by
  obtain ⟨differ, -, last⟩ := firstMisfit?_eq_none_iff.mp command.wellFormed
  have asked := checked.imp fun draft parameter accepted => ParameterDraft.check_eq_ok accepted
  have names : drafts.map (·.name) = command.parameters.map (·.name) := by
    rw [← List.forall₂_eq_eq_eq, List.forall₂_map_left_iff, List.forall₂_map_right_iff]
    exact asked.imp fun draft parameter ⟨_, _, same⟩ => same ▸ rfl
  have kinds : drafts.map (·.variadic) = command.parameters.map (·.intake.isVariadic) := by
    rw [← List.forall₂_eq_eq_eq, List.forall₂_map_left_iff, List.forall₂_map_right_iff]
    exact asked.imp fun draft parameter ⟨_, asks, same⟩ => same ▸ asks.isVariadic_eq.symm
  refine ⟨names ▸ differ, ?_, ?_⟩
  · refine ((List.forall₂_and_left (R := fun _ _ => True) drafts command.parameters).mp ?_).1
    exact asked.imp fun draft parameter ⟨_, asks, _⟩ => ⟨asks.apart, trivial⟩
  · have last : (command.parameters.map (·.intake.isVariadic)).Pairwise fun earlier _ =>
        earlier = false := List.pairwise_map.mpr (pairwise_of_forall_dropLast last)
    rw [← kinds] at last
    exact List.pairwise_map.mp last

/-- A variadic draft of a well arranged list is not implicit. -/
theorem named (arranged : Arranged drafts) {draft : ParameterDraft} (member : draft ∈ drafts)
    (variadic : draft.variadic = true) : draft.implicit = false := by
  cases implicit : draft.implicit with
  | false => rfl
  | true => simp [arranged.apart draft member implicit] at variadic

/-- No explicit parameter comes after a variadic one. -/
theorem explicitCount_eq {before after : List ParameterDraft} {draft : ParameterDraft}
    (arranged : Arranged (before ++ draft :: after)) (variadic : draft.variadic = true) :
    explicitCount before = explicitCount (before ++ draft :: after) := by
  have ends : after = [] := by
    obtain ⟨-, last, -⟩ := List.pairwise_append.mp arranged.last
    cases after with
    | nil => rfl
    | cons other after =>
        have single := (List.pairwise_cons.mp last).1 other List.mem_cons_self
        simp [variadic] at single
  rw [ends, explicitCount_append, explicitCount_singleton_of_variadic variadic, Nat.add_zero]

end Arranged

/-- The explicit parameter of an index has that many explicit parameters before it. -/
theorem getElem?_explicits_iff {drafts : List ParameterDraft} {index : Nat}
    {draft : ParameterDraft} :
    (explicits drafts)[index]? = some draft ↔ draft.isExplicit = true ∧
      ∃ before after, drafts = before ++ draft :: after ∧ explicitCount before = index := by
  constructor
  · intro found
    obtain ⟨inside, same⟩ := List.getElem?_eq_some_iff.mp found
    have split : explicits drafts =
        (explicits drafts).take index ++ draft :: (explicits drafts).drop (index + 1) := by
      rw [← same, ← List.drop_eq_getElem_cons inside, List.take_append_drop]
    obtain ⟨before, rest, rfl, first, others⟩ := List.filter_eq_append_iff.mp split
    obtain ⟨skipped, after, rfl, none, explicit, -⟩ := List.filter_eq_cons_iff.mp others
    refine ⟨explicit, before ++ skipped, after, (List.append_assoc ..).symm, ?_⟩
    have skips : explicitCount skipped = 0 :=
      congrArg List.length (List.filter_eq_nil_iff.mpr none)
    rw [explicitCount_append, skips, explicitCount, explicits, first, List.length_take]
    exact Nat.min_eq_left (Nat.le_of_lt inside)
  · rintro ⟨explicit, before, after, rfl, rfl⟩
    simp [explicitCount, explicits, explicit]

/-- Inputs to which the parameters of a command can be bound. -/
structure Bindable (drafts : List ParameterDraft) (world : World) (inputs : List Event) : Prop where
  /-- Every implicit parameter reads the world. -/
  implicits : ∀ draft ∈ drafts, draft.implicit = true →
    ∃ datum, draft.coercion world none = .ok datum
  /-- An explicit parameter reads the input of its index. -/
  reads : ∀ (index : Nat) draft event, (explicits drafts)[index]? = some draft →
    inputs[index]? = some event → ∃ datum, draft.coercion world (some event) = .ok datum
  /-- An explicit parameter without input has something to fall back on. -/
  fallsBack : ∀ (index : Nat) draft, (explicits drafts)[index]? = some draft →
    inputs.length ≤ index → draft.default.isSome = true ∨ draft.nullable = true
  /-- No input is left over. -/
  takes : inputs.length ≤ explicitCount drafts ∨ ∃ draft ∈ drafts, draft.variadic = true
  /-- A variadic parameter that is not mapped reads the inputs after the explicit ones as a group.
  -/
  remainder : ∀ draft ∈ drafts, draft.variadic = true → draft.mapped = false →
    ∃ datum, draft.coercion world (some (.group (inputs.drop (explicitCount drafts)))) = .ok datum
  /-- One that is mapped reads each of them. -/
  each : ∀ draft ∈ drafts, draft.variadic = true → draft.mapped = true →
    ∀ event ∈ inputs.drop (explicitCount drafts),
      ∃ datum, draft.coercion world (some event) = .ok datum

/-- Every parameter is given an argument. -/
def AllGiven (command : String) (world : World) (inputs : List Event)
    (drafts : List ParameterDraft) : Prop :=
  ∀ before draft after, drafts = before ++ draft :: after →
    ∃ datum, draft.Gives command world inputs (explicitCount before) (.ok datum)

/-- Where arguments have been gathered, each of them is given. -/
theorem Gathered.allGiven {command : String} {world : World} {inputs : List Event}
    {drafts : List ParameterDraft} {bound : Bound}
    (gathered : Gathered command world inputs 0 drafts bound) :
    AllGiven command world inputs drafts := by
  rintro before draft after rfl
  obtain ⟨datum, -, gives⟩ := gathered.exists_of_split
  rw [Nat.zero_add] at gives
  exact ⟨datum, gives⟩

/-- Where each argument is given and all events are taken, the events can be bound. -/
theorem bindable_of_allGiven {command : String} {world : World} {inputs : List Event}
    {drafts : List ParameterDraft} (arranged : Arranged drafts)
    (given : AllGiven command world inputs drafts) (takes : TakesAll inputs 0 drafts) :
    Bindable drafts world inputs where
  implicits draft member implicit := by
    obtain ⟨before, after, split⟩ := List.append_of_mem member
    obtain ⟨datum, gives⟩ := given before draft after split
    exact ⟨datum, gives.implicit_reads implicit (arranged.apart draft member implicit)⟩
  reads index draft event found present := by
    obtain ⟨explicit, before, after, split, rfl⟩ := getElem?_explicits_iff.mp found
    obtain ⟨datum, gives⟩ := given before draft after split
    exact ⟨datum, gives.input_reads explicit present⟩
  fallsBack index draft found absent := by
    obtain ⟨explicit, before, after, split, rfl⟩ := getElem?_explicits_iff.mp found
    obtain ⟨datum, gives⟩ := given before draft after split
    exact gives.absent_fallsBack explicit absent
  takes := by
    rw [TakesAll, Nat.zero_add] at takes
    exact takes
  remainder draft member variadic together := by
    obtain ⟨before, after, rfl⟩ := List.append_of_mem member
    obtain ⟨datum, gives⟩ := given before draft after rfl
    rw [arranged.explicitCount_eq variadic] at gives
    exact ⟨datum, gives.remainder_reads (arranged.named member variadic) variadic together⟩
  each draft member variadic mapped := by
    obtain ⟨before, after, rfl⟩ := List.append_of_mem member
    obtain ⟨datum, gives⟩ := given before draft after rfl
    rw [arranged.explicitCount_eq variadic] at gives
    exact gives.each_reads (arranged.named member variadic) variadic mapped

/-- No parameter fails on inputs that can be bound. -/
theorem Bindable.not_fails {command : String} {world : World} {inputs : List Event}
    {before after : List ParameterDraft} {draft : ParameterDraft} {failure : Failure}
    (arranged : Arranged (before ++ draft :: after))
    (bindable : Bindable (before ++ draft :: after) world inputs) :
    ¬draft.Gives command world inputs (explicitCount before) (.error failure) := by
  have member : draft ∈ before ++ draft :: after := List.mem_append_right _ List.mem_cons_self
  have indexed (explicit : draft.isExplicit = true) :
      (explicits (before ++ draft :: after))[explicitCount before]? = some draft :=
    getElem?_explicits_iff.mpr ⟨explicit, before, after, rfl, rfl⟩
  intro gives
  cases gives with
  | implicit implicit reads =>
      obtain ⟨datum, read⟩ := bindable.implicits draft member implicit
      simp [annotateResult_eq_ok.mpr read] at reads
  | input explicit present reads =>
      obtain ⟨datum, read⟩ := bindable.reads _ draft _ (indexed explicit) present
      simp [annotateResult_eq_ok.mpr read] at reads
  | missing explicit absent plain required =>
      have falls := bindable.fallsBack _ draft (indexed explicit) absent
      simp [plain, required] at falls
  | remainder variadic together reads =>
      obtain ⟨datum, read⟩ := bindable.remainder draft member variadic together
      rw [← arranged.explicitCount_eq variadic] at read
      simp [annotateResult_eq_ok.mpr read] at reads
  | @eachFails earlier later event _ variadic mapped split _ fails =>
      have each := bindable.each draft member variadic mapped
      rw [← arranged.explicitCount_eq variadic, split] at each
      obtain ⟨datum, read⟩ := each event (List.mem_append_right _ List.mem_cons_self)
      simp [fails] at read

/-- Binding succeeds exactly on the inputs that can be bound, with one argument for each parameter
in the order of declaration. It fails as the first parameter that fails, or else for inputs left
over. -/
theorem Command.bind_meets_declaration {command : Command} {drafts : List ParameterDraft}
    (checked : List.Forall₂ (fun draft parameter => draft.check = .ok parameter) drafts
      command.parameters) {world : World}
    (values : ∀ draft ∈ drafts, draft.mapped = true → draft.ReadsValues world)
    (inputs : List Event) :
    ((∃ bound, command.bind world inputs = .ok bound) ↔ Bindable drafts world inputs) ∧
    (∀ bound, command.bind world inputs = .ok bound → bound.keys = drafts.map (·.name) ∧
      ∀ before draft after, drafts = before ++ draft :: after →
        ∃ datum, bound.get? draft.name = some datum ∧
          draft.Gives command.name world inputs (explicitCount before) (.ok datum)) ∧
    ∀ failure, command.bind world inputs = .error failure →
      (∃ before draft after, drafts = before ++ draft :: after ∧
        AllGiven command.name world inputs before ∧
        draft.Gives command.name world inputs (explicitCount before) (.error failure)) ∨
      AllGiven command.name world inputs drafts ∧ explicitCount drafts < inputs.length ∧
        (∀ draft ∈ drafts, draft.variadic = false) ∧
        failure = surplusFailure command.name inputs (explicitCount drafts) := by
  have arranged := Arranged.of_checked checked
  have outcome := bindFrom_outcome checked arranged.last values command.name inputs 0
  rw [Nat.zero_min, List.drop_zero] at outcome
  change (∃ bound, command.bind world inputs = .ok bound ∧ _) ∨
    ∃ failure, command.bind world inputs = .error failure ∧ _ at outcome
  rcases outcome with ⟨bound, binds, gathered, takes⟩ | ⟨failure, fails, refused⟩
  · refine ⟨⟨fun _ => bindable_of_allGiven arranged gathered.allGiven takes,
      fun _ => ⟨bound, binds⟩⟩, ?_, ?_⟩
    · intro other same
      obtain rfl := Except.ok.inj (binds.symm.trans same)
      refine ⟨gathered.keys_eq, ?_⟩
      rintro before draft after rfl
      obtain ⟨datum, member, gives⟩ := gathered.exists_of_split
      rw [Nat.zero_add] at gives
      have differ : bound.keys.Nodup := gathered.keys_eq ▸ arranged.differ
      exact ⟨datum, Table.get?_of_mem differ member, gives⟩
    · intro failure fails
      cases binds.symm.trans fails
  · refine ⟨⟨fun ⟨bound, binds⟩ => ?_, fun bindable => ?_⟩, fun bound binds => ?_, ?_⟩
    · cases fails.symm.trans binds
    · exfalso
      rcases refused.first with ⟨before, draft, after, bound, rfl, -, gives⟩ | ⟨-, surplus, -⟩
      · rw [Nat.zero_add] at gives
        exact bindable.not_fails arranged gives
      · rw [TakesAll, Nat.zero_add] at surplus
        exact surplus bindable.takes
    · cases fails.symm.trans binds
    · intro other same
      obtain rfl := Except.error.inj (fails.symm.trans same)
      rcases refused.first with ⟨before, draft, after, bound, split, gathered, gives⟩ |
        ⟨⟨bound, gathered⟩, surplus, rfl⟩
      · rw [Nat.zero_add] at gives
        exact .inl ⟨before, draft, after, split, gathered.allGiven, gives⟩
      · simp only [TakesAll, Nat.zero_add, not_or, Nat.not_le, not_exists, not_and,
          Bool.not_eq_true] at surplus
        rw [Nat.zero_add]
        exact .inr ⟨gathered.allGiven, surplus.1, surplus.2, rfl⟩

/-- Parameters of four kinds: the oracle of the world, a label, a unit and any number of items. -/
def tallyDrafts : List ParameterDraft :=
  [{ name := "oracle", coercion := Coerce.contract "PriceOracle", implicit := true },
    { name := "label", coercion := Coerce.string },
    { name := "unit", coercion := Coerce.string, default := some (.value (.string "token")) },
    { name := "items", coercion := Coerce.number, variadic := true, mapped := true }]

/-- A view with these parameters. -/
def tally : Command where
  name := "Tally"
  parameters :=
    [⟨"oracle", Coerce.contract "PriceOracle", .implicit⟩, .required "label" Coerce.string,
      .defaulted "unit" Coerce.string (.string "token"), ⟨"items", Coerce.number, .each⟩]
  handler := .view fun _ _ => .done (.datum .absent)
  wellFormed := rfl

/-- A world with an oracle. -/
def tallyWorld : World where
  contracts := [("PriceOracle", ⟨"PriceOracle", "Standard", "0x9", none⟩)]

/-- The items are read as numbers, which are values. -/
theorem readsValues_tallyDrafts :
    ∀ draft ∈ tallyDrafts, draft.mapped = true → draft.ReadsValues tallyWorld := by
  intro draft member mapped event datum reads
  simp only [tallyDrafts, List.mem_cons, List.not_mem_nil, or_false] at member
  rcases member with rfl | rfl | rfl | rfl
  · cases mapped
  · cases mapped
  · cases mapped
  · change Coerce.number tallyWorld (some event) = .ok datum at reads
    rw [Coerce.number] at reads
    obtain ⟨-, value, -, -, rfl⟩ := Coerce.ofEvent_eq_ok reads
    exact ⟨value, rfl⟩

/-- One input is enough, but an item that is no number is refused. -/
theorem Command.bind_meets_declaration_tally :
    (∃ bound, tally.bind tallyWorld [.bare "total"] = .ok bound ∧
      bound.keys = ["oracle", "label", "unit", "items"]) ∧
    Bindable tallyDrafts tallyWorld [.bare "total"] ∧
    ¬Bindable tallyDrafts tallyWorld [.bare "total", .bare "wei", .bare "1", .bare "two"] := by
  have checked : List.Forall₂ (fun draft parameter => draft.check = .ok parameter) tallyDrafts
      tally.parameters := .cons rfl (.cons rfl (.cons rfl (.cons rfl .nil)))
  obtain ⟨succeeds, bindings, -⟩ :=
    bind_meets_declaration checked readsValues_tallyDrafts [.bare "total"]
  refine ⟨⟨_, rfl, (bindings _ rfl).1⟩, succeeds.mp ⟨_, rfl⟩, fun bindable => ?_⟩
  obtain ⟨bound, binds⟩ := (bind_meets_declaration checked readsValues_tallyDrafts _).1.mpr bindable
  cases binds

end Playbook
