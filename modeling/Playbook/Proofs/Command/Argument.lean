import Mathlib.Data.List.Forall2
import Playbook.Command.Binding

/-! # The argument of a parameter

What a parameter is given depends on the inputs of its command and on its place, the number of
explicit parameters before it, but on no other parameter: an implicit one reads the world, an
explicit one the input of its place, a variadic one all inputs from its place on.
-/

namespace Playbook

/-- A traversal succeeds with what each of the items gives. -/
theorem traversal_eq_ok_iff {ε α β : Type} (read : α → Except ε β)
    (readAll : List α → Except ε (List β)) (nil : readAll [] = .ok [])
    (cons : ∀ item items, readAll (item :: items) = do return (← read item) :: (← readAll items))
    {items : List α} {results : List β} :
    readAll items = .ok results ↔
      List.Forall₂ (fun item result => read item = .ok result) items results := by
  induction items generalizing results with
  | nil =>
      rw [nil, List.forall₂_nil_left_iff]
      exact ⟨fun same => (Except.ok.inj same).symm, fun same => same ▸ rfl⟩
  | cons item items ih =>
      rw [cons, List.forall₂_cons_left_iff]
      constructor
      · intro succeeds
        cases first : read item with
        | error failure =>
            rw [first] at succeeds
            cases succeeds
        | ok result =>
            cases others : readAll items with
            | error failure =>
                rw [first, others] at succeeds
                cases succeeds
            | ok later =>
                rw [first, others] at succeeds
                exact ⟨result, later, rfl, ih.mp others, (Except.ok.inj succeeds).symm⟩
      · rintro ⟨result, later, first, others, rfl⟩
        rw [first, ih.mpr others]
        rfl

/-- Reading items one after the other succeeds with what each of them gives. -/
theorem mapM_eq_ok_iff {ε α β : Type} (read : α → Except ε β) {items : List α} {results : List β} :
    items.mapM read = .ok results ↔
      List.Forall₂ (fun item result => read item = .ok result) items results :=
  traversal_eq_ok_iff read (·.mapM read) rfl fun _ _ => List.mapM_cons

/-- What is made of a result is there exactly if the result is. -/
theorem bind_pure_eq_ok_iff {ε α β : Type} {result : Except ε α} {make : α → β} {made : β} :
    (result >>= fun value => pure (make value)) = .ok made ↔
      ∃ value, result = .ok value ∧ made = make value := by
  cases result with
  | error failure => exact iff_of_false (by rintro ⟨⟩) (by rintro ⟨_, ⟨⟩, -⟩)
  | ok value =>
      constructor
      · rintro ⟨⟩
        exact ⟨value, rfl, rfl⟩
      · rintro ⟨_, ⟨⟩, rfl⟩
        rfl

/-- What is said of a failure changes no result. -/
theorem mapError_eq_ok_iff {ε ε' α : Type} {mark : ε → ε'} {result : Except ε α} {value : α} :
    result.mapError mark = .ok value ↔ result = .ok value := by
  cases result with
  | error failure => exact iff_of_false nofun nofun
  | ok other =>
      constructor
      · rintro ⟨⟩
        rfl
      · rintro ⟨⟩
        rfl

/-- What stands on the right of a relation of lists is related to something on the left. -/
theorem exists_of_mem_right {α β : Type} {related : α → β → Prop} {lefts : List α} {rights : List β}
    (each : List.Forall₂ related lefts rights) {right : β} (member : right ∈ rights) :
    ∃ left ∈ lefts, related left right := by
  induction each with
  | nil => cases member
  | cons first _ ih =>
      rcases List.mem_cons.mp member with rfl | later
      · exact ⟨_, List.mem_cons_self, first⟩
      · obtain ⟨left, inside, relates⟩ := ih later
        exact ⟨left, List.mem_cons_of_mem _ inside, relates⟩

/-- A list is related to some list if and only if each of its items is related to something. -/
theorem exists_forall₂_iff {α β : Type} {related : α → β → Prop} {lefts : List α} :
    (∃ rights, List.Forall₂ related lefts rights) ↔
      ∀ left ∈ lefts, ∃ right, related left right := by
  induction lefts with
  | nil => exact iff_of_true ⟨[], .nil⟩ (List.forall_mem_nil _)
  | cons left lefts ih =>
      rw [List.forall_mem_cons, ← ih]
      constructor
      · rintro ⟨_, each⟩
        cases each with
        | cons first others => exact ⟨⟨_, first⟩, _, others⟩
      · rintro ⟨⟨_, first⟩, _, others⟩
        exact ⟨_, .cons first others⟩

/-- The list of items that are values is a value. -/
theorem Value.ofItems_map_value (values : List Value) :
    Value.ofItems (values.map .value) = .ok (.list values) := by
  have gathered (start : Nat) : ((values.map Datum.value).zipIdx start).mapM
      (fun entry => entry.1.item (toString entry.2)) = Except.ok (ε := InvalidValue) values := by
    induction values generalizing start with
    | nil => rfl
    | cons value values ih =>
        rw [List.map_cons, List.zipIdx_cons, List.mapM_cons, ih]
        rfl
  exact congrArg (Value.list <$> ·) (gathered 0)

/-- Where nothing but values is read, all that is read is a list of values. -/
theorem exists_values {α : Type} {read : α → Except Failure Datum}
    (values : ∀ item datum, read item = .ok datum → ∃ value, datum = .value value)
    {items : List α} {data : List Datum}
    (each : List.Forall₂ (fun item datum => read item = .ok datum) items data) :
    ∃ contents : List Value, data = contents.map .value ∧
      List.Forall₂ (fun item value => read item = .ok (.value value)) items contents := by
  induction each with
  | nil => exact ⟨[], rfl, .nil⟩
  | cons reads _ ih =>
      obtain ⟨value, rfl⟩ := values _ _ reads
      obtain ⟨contents, rfl, others⟩ := ih
      exact ⟨value :: contents, rfl, .cons reads others⟩

namespace ParameterDraft

/-- An explicit parameter takes an event of its own. -/
def isExplicit (draft : ParameterDraft) : Bool := !draft.implicit && !draft.variadic

/-- The coercion of a draft makes nothing but values of events. -/
def ReadsValues (draft : ParameterDraft) (world : World) : Prop :=
  ∀ event datum, draft.coercion world (some event) = .ok datum → ∃ value, datum = .value value

/-- What is noted of a failure at a parameter. -/
def notes (draft : ParameterDraft) (command : String) (position : Option Nat) : Context :=
  { command := some command, argument := some draft.name, position }

/-- The parameter that a draft becomes with an intake. -/
def parameter (draft : ParameterDraft) (intake : Intake) : Parameter :=
  ⟨draft.name, draft.coercion, intake⟩

/-- The parameter of a draft reads by the coercion of the draft, and marks failures as the draft
says. -/
theorem read_parameter (draft : ParameterDraft) (intake : Intake) (command : String) (world : World)
    (event : Option Event) (position : Option Nat) :
    (draft.parameter intake).read command world event position =
      annotateResult (draft.notes command position) (draft.coercion world event) :=
  rfl

/-- A parameter that reads event by event makes a list of what it has read. -/
theorem take_each (draft : ParameterDraft) (command : String) (world : World) (position : Nat)
    (events : List Event) :
    (draft.parameter .each).take command world position events = (do
      let data ← (draft.parameter .each).readEach command world position events
      ((.value ·, [])) <$> (Value.ofItems data).mapError .invalid) :=
  rfl

/-- The intake that a draft asks for. -/
inductive Asks (draft : ParameterDraft) : Intake → Prop where
  | implicit (implicit : draft.implicit = true) (single : draft.variadic = false) :
      Asks draft .implicit
  | single {fallback : Fallback} (explicit : draft.isExplicit = true)
      (falls : draft.fallback? = some fallback) : Asks draft (.single fallback)
  | remainder (named : draft.implicit = false) (variadic : draft.variadic = true)
      (together : draft.mapped = false) : Asks draft .remainder
  | each (named : draft.implicit = false) (variadic : draft.variadic = true)
      (mapped : draft.mapped = true) : Asks draft .each

/-- A draft that is accepted becomes the parameter that it asks for. -/
theorem check_eq_ok {draft : ParameterDraft} {parameter : Parameter}
    (checked : draft.check = .ok parameter) :
    ∃ intake, draft.Asks intake ∧ parameter = draft.parameter intake := by
  unfold check at checked
  split at checked
  · cases checked
  next modifiers =>
  split at checked
  · cases checked
  next unmapped =>
  split at checked
  · cases checked
  next fallback falls =>
  obtain rfl := Except.ok.inj checked
  refine ⟨_, ?_, rfl⟩
  simp only [Bool.and_eq_true, Bool.or_eq_true, Bool.not_eq_true', not_and, not_or,
    Bool.not_eq_true, Bool.not_eq_false] at modifiers unmapped
  split
  next implicit => exact .implicit implicit (modifiers implicit).1.1
  next named =>
  split
  next mapped => exact .each (eq_false_of_ne_true named) (unmapped mapped) mapped
  next together =>
  split
  next variadic =>
    exact .remainder (eq_false_of_ne_true named) variadic
      (eq_false_of_ne_true together)
  next single => exact .single (by simp [isExplicit, named, single]) falls

/-- A draft asks for all remaining events if and only if it is declared variadic. -/
theorem Asks.isVariadic_eq {draft : ParameterDraft} {intake : Intake} (asks : draft.Asks intake) :
    intake.isVariadic = draft.variadic := by
  cases asks with
  | implicit _ single => exact single.symm
  | single explicit => simp_all [isExplicit, Intake.isVariadic]
  | remainder _ variadic | each _ variadic => exact variadic.symm

/-- An implicit draft that is accepted is not variadic. -/
theorem Asks.apart {draft : ParameterDraft} {intake : Intake} (asks : draft.Asks intake)
    (implicit : draft.implicit = true) : draft.variadic = false := by
  cases asks with
  | implicit _ single => exact single
  | single explicit => simp [isExplicit, implicit] at explicit
  | remainder named | each named => simp [implicit] at named

/-- What a parameter is given of the inputs of a command when `place` explicit parameters come
before it. -/
inductive Gives (command : String) (world : World) (inputs : List Event) (place : Nat)
    (draft : ParameterDraft) : Except Failure Datum → Prop where
  | implicit {result : Except Failure Datum} (implicit : draft.implicit = true)
      (reads : annotateResult (draft.notes command none) (draft.coercion world none) = result) :
      Gives command world inputs place draft result
  | input {result : Except Failure Datum} {event : Event} (explicit : draft.isExplicit = true)
      (present : inputs[place]? = some event)
      (reads : annotateResult (draft.notes command (some (place + 1)))
        (draft.coercion world (some event)) = result) :
      Gives command world inputs place draft result
  | default {value : Value} (explicit : draft.isExplicit = true) (absent : inputs.length ≤ place)
      (defaulted : draft.default = some (.value value)) :
      Gives command world inputs place draft (.ok (.value value))
  | null (explicit : draft.isExplicit = true) (absent : inputs.length ≤ place)
      (plain : draft.default = none) (nullable : draft.nullable = true) :
      Gives command world inputs place draft (.ok .absent)
  | missing (explicit : draft.isExplicit = true) (absent : inputs.length ≤ place)
      (plain : draft.default = none) (required : draft.nullable = false) :
      Gives command world inputs place draft
        (.error ((Failure.ofCause (.missingArgument draft.name)).annotate
          (draft.notes command (some (inputs.length + 1)))))
  | remainder {result : Except Failure Datum} (variadic : draft.variadic = true)
      (together : draft.mapped = false)
      (reads : annotateResult (draft.notes command (some (min place inputs.length + 1)))
        (draft.coercion world (some (.group (inputs.drop place)))) = result) :
      Gives command world inputs place draft result
  | each {values : List Value} (variadic : draft.variadic = true) (mapped : draft.mapped = true)
      (reads : List.Forall₂
        (fun event value => draft.coercion world (some event) = .ok (.value value))
        (inputs.drop place) values) :
      Gives command world inputs place draft (.ok (.value (.list values)))
  | eachFails {earlier later : List Event} {event : Event} {failure : Failure}
      (variadic : draft.variadic = true) (mapped : draft.mapped = true)
      (split : inputs.drop place = earlier ++ event :: later)
      (reads : ∀ event ∈ earlier, ∃ datum, draft.coercion world (some event) = .ok datum)
      (fails : draft.coercion world (some event) = .error failure) :
      Gives command world inputs place draft
        (.error (failure.annotate (draft.notes command (some (place + earlier.length + 1)))))

/-- An explicit draft is not variadic. -/
theorem not_variadic_of_explicit {draft : ParameterDraft} (explicit : draft.isExplicit = true) :
    draft.variadic = false := by
  simp only [isExplicit, Bool.and_eq_true, Bool.not_eq_true'] at explicit
  exact explicit.2

/-- An explicit draft is not implicit. -/
theorem not_implicit_of_explicit {draft : ParameterDraft} (explicit : draft.isExplicit = true) :
    draft.implicit = false := by
  simp only [isExplicit, Bool.and_eq_true, Bool.not_eq_true'] at explicit
  exact explicit.1

namespace Gives
variable {command : String} {world : World} {inputs : List Event} {place : Nat}
  {draft : ParameterDraft} {datum : Datum}

/-- An implicit argument is what the coercion gives without an event. -/
theorem implicit_reads (gives : draft.Gives command world inputs place (.ok datum))
    (implicit : draft.implicit = true) (single : draft.variadic = false) :
    draft.coercion world none = .ok datum := by
  cases gives with
  | implicit _ reads => exact annotateResult_eq_ok.mp reads
  | input explicit | default explicit | null explicit => simp [isExplicit, implicit] at explicit
  | remainder variadic | each variadic => simp [single] at variadic

/-- An explicit argument is what the coercion gives for the event at its place. -/
theorem input_reads (gives : draft.Gives command world inputs place (.ok datum))
    (explicit : draft.isExplicit = true) {event : Event} (present : inputs[place]? = some event) :
    draft.coercion world (some event) = .ok datum := by
  have inside := (List.getElem?_eq_some_iff.mp present).1
  cases gives with
  | implicit implicit => simp [not_implicit_of_explicit explicit] at implicit
  | input _ found reads =>
      obtain rfl := Option.some.inj (present.symm.trans found)
      exact annotateResult_eq_ok.mp reads
  | default _ absent | null _ absent => exact absurd inside (Nat.not_lt_of_le absent)
  | remainder variadic | each variadic => simp [not_variadic_of_explicit explicit] at variadic

/-- An explicit argument without an event has something to fall back on. -/
theorem absent_fallsBack (gives : draft.Gives command world inputs place (.ok datum))
    (explicit : draft.isExplicit = true) (absent : inputs.length ≤ place) :
    draft.default.isSome = true ∨ draft.nullable = true := by
  cases gives with
  | implicit implicit => simp [not_implicit_of_explicit explicit] at implicit
  | input _ found =>
      exact absurd (List.getElem?_eq_some_iff.mp found).1 (Nat.not_lt_of_le absent)
  | default _ _ defaulted => exact .inl (defaulted ▸ rfl)
  | null _ _ _ nullable => exact .inr nullable
  | remainder variadic | each variadic => simp [not_variadic_of_explicit explicit] at variadic

/-- A variadic argument that is not mapped is what the coercion gives for the remaining events as a
group. -/
theorem remainder_reads (gives : draft.Gives command world inputs place (.ok datum))
    (named : draft.implicit = false) (variadic : draft.variadic = true)
    (together : draft.mapped = false) :
    draft.coercion world (some (.group (inputs.drop place))) = .ok datum := by
  cases gives with
  | implicit implicit => simp [named] at implicit
  | input explicit | default explicit | null explicit =>
      simp [not_variadic_of_explicit explicit] at variadic
  | remainder _ _ reads => exact annotateResult_eq_ok.mp reads
  | each _ mapped => simp [together] at mapped

/-- The coercion of a mapped argument gives something for each of the remaining events. -/
theorem each_reads (gives : draft.Gives command world inputs place (.ok datum))
    (named : draft.implicit = false) (variadic : draft.variadic = true)
    (mapped : draft.mapped = true) :
    ∀ event ∈ inputs.drop place, ∃ item, draft.coercion world (some event) = .ok item := by
  cases gives with
  | implicit implicit => simp [named] at implicit
  | input explicit | default explicit | null explicit =>
      simp [not_variadic_of_explicit explicit] at variadic
  | remainder _ together => simp [mapped] at together
  | @each values _ _ reads =>
      refine ((List.forall₂_and_left (R := fun _ _ => True) (inputs.drop place) values).mp ?_).1
      exact reads.imp fun event value reads => ⟨⟨_, reads⟩, trivial⟩

end Gives
end ParameterDraft

/-- The explicit parameters, in the order of declaration. -/
def explicits (drafts : List ParameterDraft) : List ParameterDraft := drafts.filter (·.isExplicit)

/-- The number of explicit parameters. -/
def explicitCount (drafts : List ParameterDraft) : Nat := (explicits drafts).length

/-- Explicit drafts are counted in two parts. -/
theorem explicitCount_append (before after : List ParameterDraft) :
    explicitCount (before ++ after) = explicitCount before + explicitCount after := by
  simp [explicitCount, explicits]

/-- Explicit drafts are counted one by one. -/
theorem explicitCount_cons (draft : ParameterDraft) (drafts : List ParameterDraft) :
    explicitCount (draft :: drafts) = explicitCount [draft] + explicitCount drafts :=
  explicitCount_append [draft] drafts

/-- A variadic draft does not count. -/
theorem explicitCount_singleton_of_variadic {draft : ParameterDraft}
    (variadic : draft.variadic = true) :
    explicitCount [draft] = 0 := by
  simp [explicitCount, explicits, ParameterDraft.isExplicit, variadic]

/-- An explicit draft counts as one. -/
theorem explicitCount_singleton_of_explicit {draft : ParameterDraft}
    (explicit : draft.isExplicit = true) : explicitCount [draft] = 1 := by
  simp [explicitCount, explicits, explicit]

namespace ParameterDraft

/-- Where the parameters after a draft start: a variadic one takes all inputs that are left. -/
def next (draft : ParameterDraft) (inputs : List Event) (place : Nat) : Nat :=
  if draft.variadic then max place inputs.length else place + explicitCount [draft]

/-- Places do not go back. -/
theorem le_next (draft : ParameterDraft) (inputs : List Event) (place : Nat) :
    place ≤ draft.next inputs place := by
  unfold next
  split
  · exact Nat.le_max_left ..
  · exact Nat.le_add_right ..

/-- After a variadic argument no events are left. -/
theorem drop_next_of_variadic {draft : ParameterDraft} (variadic : draft.variadic = true)
    (inputs : List Event) (place : Nat) : inputs.drop (draft.next inputs place) = [] := by
  rw [next, if_pos variadic]
  exact List.drop_of_length_le (Nat.le_max_right ..)

/-- After an argument that is not variadic the place has gone on by one if the draft is explicit. -/
theorem next_of_single {draft : ParameterDraft} (single : draft.variadic = false)
    (inputs : List Event) (place : Nat) :
    draft.next inputs place = place + explicitCount [draft] := by
  rw [next, single]
  rfl

/-- Reading events one by one gives what each is read as, or the failure of the first that fails. -/
theorem readEach_outcome (draft : ParameterDraft) (intake : Intake) (command : String)
    (world : World) (position : Nat) (events : List Event) :
    (∃ data, (draft.parameter intake).readEach command world position events = .ok data ∧
      List.Forall₂ (fun event datum => draft.coercion world (some event) = .ok datum) events data) ∨
    ∃ earlier event later failure, events = earlier ++ event :: later ∧
      (∀ event ∈ earlier, ∃ datum, draft.coercion world (some event) = .ok datum) ∧
      draft.coercion world (some event) = .error failure ∧
      (draft.parameter intake).readEach command world position events =
        .error (failure.annotate (draft.notes command (some (position + earlier.length)))) := by
  induction events generalizing position with
  | nil => exact .inl ⟨[], rfl, .nil⟩
  | cons event events ih =>
      cases reads : draft.coercion world (some event) with
      | error failure =>
          refine .inr ⟨[], event, events, failure, rfl, nofun, reads, ?_⟩
          rw [Parameter.readEach, read_parameter, reads]
          rfl
      | ok datum =>
          rcases ih (position + 1) with ⟨data, others, each⟩ |
            ⟨earlier, last, later, failure, rfl, each, fails, others⟩
          · refine .inl ⟨datum :: data, ?_, .cons reads each⟩
            rw [Parameter.readEach, read_parameter, reads, others]
            rfl
          · refine .inr ⟨event :: earlier, last, later, failure, rfl, ?_, fails, ?_⟩
            · exact List.forall_mem_cons.mpr ⟨⟨datum, reads⟩, each⟩
            · rw [Parameter.readEach, read_parameter, reads, others, List.length_cons,
                Nat.add_assoc position, Nat.add_comm 1]
              rfl

/-- A parameter takes what its draft is given, and leaves the inputs of the parameters after it. -/
theorem take_outcome {draft : ParameterDraft} {intake : Intake} (asks : draft.Asks intake)
    {world : World} (values : draft.mapped = true → draft.ReadsValues world) (command : String)
    (inputs : List Event) (place : Nat) :
    ∃ result, draft.Gives command world inputs place result ∧
      (draft.parameter intake).take command world (min place inputs.length + 1)
      (inputs.drop place) =
        (·, inputs.drop (draft.next inputs place)) <$> result := by
  cases asks with
  | implicit implicit single =>
      refine ⟨_, .implicit implicit rfl, ?_⟩
      rw [next_of_single single, explicitCount, explicits, List.filter_cons_of_neg]
      · rfl
      · simp [isExplicit, implicit]
  | @single fallback explicit falls =>
      rw [next_of_single (not_variadic_of_explicit explicit),
        explicitCount_singleton_of_explicit explicit]
      cases ahead : inputs.drop place with
      | nil =>
          have absent : inputs.length ≤ place := List.drop_eq_nil_iff.mp ahead
          rw [List.drop_of_length_le (by omega : inputs.length ≤ place + 1),
            Nat.min_eq_right absent]
          unfold fallback? at falls
          split at falls
          next plain =>
            obtain rfl := Option.some.inj falls
            cases nullable : draft.nullable with
            | false => exact ⟨_, .missing explicit absent plain nullable, rfl⟩
            | true => exact ⟨_, .null explicit absent plain nullable, rfl⟩
          next value defaulted =>
            obtain rfl := Option.some.inj falls
            exact ⟨_, .default explicit absent defaulted, rfl⟩
          next => cases falls
      | cons event rest =>
          have present : inputs[place]? = some event := by
            rw [← List.head?_drop, ahead]
            rfl
          have inside : place < inputs.length := (List.getElem?_eq_some_iff.mp present).1
          refine ⟨_, .input explicit present rfl, ?_⟩
          rw [List.drop_add_one_eq_tail_drop, ahead, Nat.min_eq_left (Nat.le_of_lt inside)]
          rfl
  | remainder _ variadic together =>
      rw [drop_next_of_variadic variadic]
      exact ⟨_, .remainder variadic together rfl, rfl⟩
  | each _ variadic mapped =>
      rw [drop_next_of_variadic variadic]
      rcases draft.readEach_outcome .each command world (min place inputs.length + 1)
          (inputs.drop place) with ⟨data, reads, each⟩ |
        ⟨earlier, event, later, failure, split, each, fails, reads⟩
      · obtain ⟨contents, rfl, read⟩ := exists_values (values mapped) each
        refine ⟨_, .each variadic mapped read, ?_⟩
        rw [take_each, reads]
        change (_ <$> (Value.ofItems (contents.map .value)).mapError _) = _
        rw [Value.ofItems_map_value]
        rfl
      · have inside : place < inputs.length := by
          have lengths := congrArg List.length split
          simp only [List.length_drop, List.length_append, List.length_cons] at lengths
          omega
        refine ⟨_, .eachFails variadic mapped split each fails, ?_⟩
        rw [take_each, reads, Nat.min_eq_left (Nat.le_of_lt inside), Nat.add_right_comm]
        rfl

end ParameterDraft
end Playbook
