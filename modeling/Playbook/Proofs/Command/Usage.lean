import Mathlib.Data.List.Nodup
import Playbook.Help
import Playbook.Proofs.Command.Binding
import Playbook.Proofs.Registry

/-! # What the usage of a command tells

The usage shows a parameter in one of three forms. It is the binder that gives the forms their
meaning: a name in angle brackets has to be given an input, one in square brackets may be left out,
and one after dots takes all inputs that are left. The two are written apart, so the module reads
each form off what binding does when no coercion is in the way.
-/

namespace Playbook

namespace ParameterDraft

/-- A draft that has to be given an input. -/
structure IsRequired (draft : ParameterDraft) : Prop where
  explicit : draft.isExplicit = true
  plain : draft.default = none
  strict : draft.nullable = false

/-- How a draft is shown in the usage of its command; implicit parameters are not. -/
inductive Shows (draft : ParameterDraft) : Option String → Prop where
  | implicit (implicit : draft.implicit = true) : Shows draft none
  | required (required : draft.IsRequired) : Shows draft (some ("<" ++ draft.name ++ ">"))
  | nullable (explicit : draft.isExplicit = true) (plain : draft.default = none)
      (nullable : draft.nullable = true) : Shows draft (some ("[" ++ draft.name ++ "]"))
  | default {value : Value} {shown : String} (explicit : draft.isExplicit = true)
      (defaulted : draft.default = some (.value value)) (renders : value.render = .ok shown) :
      Shows draft (some ("[" ++ draft.name ++ "=" ++ shown ++ "]"))
  | variadic (named : draft.implicit = false) (variadic : draft.variadic = true) :
      Shows draft (some ("..." ++ draft.name))

/-- The word that the usage has for a parameter shows the draft of the parameter. -/
theorem shows_of_usage? {draft : ParameterDraft} {parameter : Parameter} {word : Option String}
    (checked : draft.check = .ok parameter) (usage : parameter.usage? = .ok word) :
    draft.Shows word := by
  obtain ⟨intake, asks, rfl⟩ := check_eq_ok checked
  cases asks with
  | implicit implicit =>
      obtain rfl := Except.ok.inj usage
      exact .implicit implicit
  | @single fallback explicit falls =>
      unfold fallback? at falls
      split at falls
      next plain =>
        obtain rfl := Option.some.inj falls
        cases strict : draft.nullable with
        | false =>
            rw [strict] at usage
            obtain rfl := Except.ok.inj usage
            exact .required ⟨explicit, plain, strict⟩
        | true =>
            rw [strict] at usage
            obtain rfl := Except.ok.inj usage
            exact .nullable explicit plain strict
      next value defaulted =>
        obtain rfl := Option.some.inj falls
        change value.render.map _ = _ at usage
        cases renders : value.render with
        | error signal =>
            rw [renders] at usage
            cases usage
        | ok shown =>
            rw [renders] at usage
            obtain rfl := Except.ok.inj usage
            exact .default explicit defaulted renders
      next => cases falls
  | remainder named variadic | each named variadic =>
      obtain rfl := Except.ok.inj usage
      exact .variadic named variadic

/-- A draft is shown by a word if and only if it is not implicit. -/
theorem Shows.isSome_eq {draft : ParameterDraft} {word : Option String} (shows : draft.Shows word) :
    word.isSome = !draft.implicit := by
  cases shows with
  | implicit implicit => simp [implicit]
  | required required => simp [not_implicit_of_explicit required.explicit]
  | nullable explicit | default explicit => simp [not_implicit_of_explicit explicit]
  | variadic named => simp [named]

/-- Words that start with different marks are different. -/
theorem ne_of_head_ne {word other : String} (apart : word.toList.head? ≠ other.toList.head?) :
    word ≠ other := by
  rintro rfl
  exact apart rfl

/-- The form tells what is declared. -/
theorem Shows.forms {draft : ParameterDraft} {word : String} (shows : draft.Shows (some word)) :
    (word = "<" ++ draft.name ++ ">" ↔ draft.IsRequired) ∧
    ((word = "[" ++ draft.name ++ "]" ∨ ∃ value shown, draft.default = some (.value value) ∧
        value.render = .ok shown ∧ word = "[" ++ draft.name ++ "=" ++ shown ++ "]") ↔
      draft.isExplicit = true ∧ ¬draft.IsRequired) ∧
    (word = "..." ++ draft.name ↔ draft.variadic = true) := by
  have notOptional {word : String} (apart : word.toList.head? ≠ some '[') :
      ¬(word = "[" ++ draft.name ++ "]" ∨ ∃ value shown, draft.default = some (.value value) ∧
        value.render = .ok shown ∧ word = "[" ++ draft.name ++ "=" ++ shown ++ "]") := by
    rintro (rfl | ⟨value, shown, -, -, rfl⟩) <;> simp at apart
  cases shows with
  | required required =>
      refine ⟨iff_of_true rfl required, iff_of_false (notOptional (by simp)) ?_, iff_of_false ?_ ?_⟩
      · exact fun optional => optional.2 required
      · exact ne_of_head_ne (by simp)
      · simp [not_variadic_of_explicit required.explicit]
  | nullable explicit plain nullable =>
      have optional : ¬draft.IsRequired := fun required => by simp [required.strict] at nullable
      refine ⟨iff_of_false (ne_of_head_ne (by simp)) optional,
        iff_of_true (.inl rfl) ⟨explicit, optional⟩, iff_of_false (ne_of_head_ne (by simp)) ?_⟩
      simp [not_variadic_of_explicit explicit]
  | @default value shown explicit defaulted renders =>
      have optional : ¬draft.IsRequired := fun required => by simp [required.plain] at defaulted
      refine ⟨iff_of_false (ne_of_head_ne (by simp)) optional,
        iff_of_true (.inr ⟨value, shown, defaulted, renders, rfl⟩) ⟨explicit, optional⟩,
        iff_of_false (ne_of_head_ne (by simp)) ?_⟩
      simp [not_variadic_of_explicit explicit]
  | variadic named variadic =>
      have notExplicit : draft.isExplicit = false := by simp [isExplicit, variadic]
      refine ⟨iff_of_false (ne_of_head_ne (by simp)) ?_, iff_of_false (notOptional (by simp)) ?_,
        iff_of_true rfl variadic⟩
      · exact fun required => by simp [required.explicit] at notExplicit
      · exact fun optional => by simp [optional.1] at notExplicit

end ParameterDraft

/-- The number of parameters that are written in scripts. -/
def writtenCount (drafts : List ParameterDraft) : Nat := (drafts.filter (!·.implicit)).length

/-- The usage has one word for each parameter that is written. -/
theorem length_words {drafts : List ParameterDraft} {words : List (Option String)}
    (shows : List.Forall₂ ParameterDraft.Shows drafts words) :
    (words.filterMap id).length = writtenCount drafts := by
  induction shows with
  | nil => rfl
  | @cons draft word drafts words first _ ih =>
      rw [writtenCount] at ih ⊢
      have written := first.isSome_eq
      cases word with
      | none => simpa [← written] using ih
      | some word => simpa [← written] using ih

/-- The words are in the order of declaration. -/
theorem exists_word {before after : List ParameterDraft} {draft : ParameterDraft}
    {words : List (Option String)}
    (shows : List.Forall₂ ParameterDraft.Shows (before ++ draft :: after) words)
    (named : draft.implicit = false) :
    ∃ word, (words.filterMap id)[writtenCount before]? = some word ∧ draft.Shows (some word) := by
  induction before generalizing words with
  | nil =>
      cases shows with
      | @cons _ word _ words first _ =>
          have written := first.isSome_eq
          cases word with
          | none => simp [named] at written
          | some word => exact ⟨word, rfl, first⟩
  | cons other before ih =>
      cases shows with
      | @cons _ word _ words first others =>
          obtain ⟨last, found, shows⟩ := ih others
          refine ⟨last, ?_, shows⟩
          have written := first.isSome_eq
          rw [writtenCount] at found ⊢
          cases word with
          | none => simpa [← written] using found
          | some word => simpa [← written] using found

/-- A usage is made of the name of the subsystem, unless it is empty, that of the command, and the
words of the parameters. -/
theorem Command.usage_eq_ok_iff {command : Command} {subsystem : Option String} {text : String} :
    command.usage subsystem = .ok text ↔ ∃ words,
      List.Forall₂ (fun parameter word => parameter.usage? = .ok word) command.parameters words ∧
        text = " ".intercalate
          ((subsystem.filter (!·.isEmpty)).toList ++ command.name :: words.filterMap id) := by
  simp only [← mapM_eq_ok_iff]
  exact bind_pure_eq_ok_iff

/-- All defaults of a command have a shown form. -/
def Command.ShowsDefaults (command : Command) : Prop :=
  ∀ parameter ∈ command.parameters, ∀ value, parameter.intake = .single (.default value) →
    ∃ shown, value.render = .ok shown

/-- The usage of a parameter can be told if its default, where it has one, can be shown. -/
theorem exists_usage?_iff {parameter : Parameter} : (∃ word, parameter.usage? = .ok word) ↔
    ∀ value, parameter.intake = .single (.default value) → ∃ shown, value.render = .ok shown := by
  obtain ⟨name, coercion, intake⟩ := parameter
  cases intake with
  | implicit | remainder | each => exact iff_of_true ⟨_, rfl⟩ nofun
  | single fallback =>
      cases fallback with
      | required | null => exact iff_of_true ⟨_, rfl⟩ nofun
      | default value =>
          constructor
          · rintro ⟨word, usage⟩ _ ⟨⟩
            change value.render.map _ = _ at usage
            cases renders : value.render with
            | error signal =>
                rw [renders] at usage
                cases usage
            | ok shown => exact ⟨shown, rfl⟩
          · intro shows
            obtain ⟨shown, renders⟩ := shows value rfl
            exact ⟨some ("[" ++ name ++ "=" ++ shown ++ "]"), congrArg (Except.map _) renders⟩

/-- The parameters of a command have words if its defaults can be shown. -/
theorem Command.exists_words_iff {command : Command} :
    (∃ words, List.Forall₂ (fun parameter word => parameter.usage? = .ok word) command.parameters
      words) ↔ command.ShowsDefaults := by
  simp only [ShowsDefaults, ← exists_usage?_iff, ← exists_forall₂_iff]

/-- And so the command has a usage. -/
theorem Command.exists_usage_iff {command : Command} {subsystem : Option String} :
    (∃ usage, command.usage subsystem = .ok usage) ↔ command.ShowsDefaults := by
  simp only [usage_eq_ok_iff, ← exists_words_iff]
  exact ⟨fun ⟨_, words, each, _⟩ => ⟨words, each⟩, fun ⟨words, each⟩ => ⟨_, words, each, rfl⟩⟩

/-! ### Other coercions -/

/-- The draft with the coercion that is given for its name. -/
def ParameterDraft.recoerced (coercion : String → Coercion) (draft : ParameterDraft) :
    ParameterDraft :=
  { draft with coercion := coercion draft.name }

/-- The parameter with the coercion that is given for its name. -/
def Parameter.recoerced (coercion : String → Coercion) (parameter : Parameter) : Parameter :=
  { parameter with coercion := coercion parameter.name }

/-- With another coercion a draft is checked as before. -/
theorem ParameterDraft.check_recoerced {coercion : String → Coercion} {draft : ParameterDraft}
    {parameter : Parameter} (checked : draft.check = .ok parameter) :
    (draft.recoerced coercion).check = .ok (parameter.recoerced coercion) := by
  unfold check at checked
  split at checked
  · cases checked
  next modifiers =>
  split at checked
  · cases checked
  next unmapped =>
  split at checked
  · cases checked
  next fallback falls =>
  obtain rfl := Except.ok.inj checked
  have falls' : (draft.recoerced coercion).fallback? = some fallback := falls
  rw [check, falls']
  exact (if_neg modifiers).trans (if_neg unmapped)

/-- With other coercions the parameters of a command fit together as before. -/
theorem firstMisfit?_recoerced (coercion : String → Coercion) (command : String)
    (seen : List String) (parameters : List Parameter) :
    firstMisfit? command seen (parameters.map (·.recoerced coercion)) =
      firstMisfit? command seen parameters := by
  induction parameters generalizing seen with
  | nil => rfl
  | cons parameter rest ih =>
      rw [List.map_cons, firstMisfit?, firstMisfit?, ih, List.isEmpty_map]
      rfl

/-- The command with the coercions that are given for the names of its parameters. -/
def Command.recoerced (coercion : String → Coercion) (command : Command) : Command :=
  { command with
    parameters := command.parameters.map (·.recoerced coercion)
    wellFormed := (firstMisfit?_recoerced ..).trans command.wellFormed }

/-- With other coercions a command is declared by the same drafts with those coercions. -/
theorem Command.checked_recoerced {coercion : String → Coercion} {command : Command}
    {drafts : List ParameterDraft}
    (checked : List.Forall₂ (fun draft parameter => draft.check = .ok parameter) drafts
      command.parameters) :
    List.Forall₂ (fun draft parameter => draft.check = .ok parameter)
      (drafts.map (·.recoerced coercion)) (command.recoerced coercion).parameters := by
  rw [recoerced, List.forall₂_map_left_iff, List.forall₂_map_right_iff]
  exact checked.imp fun _ _ => ParameterDraft.check_recoerced

/-! ### Coercions that succeed -/

/-- Before a draft of a well arranged list, what is written is what is explicit. -/
theorem Arranged.writtenCount_eq {before after : List ParameterDraft} {draft : ParameterDraft}
    (arranged : Arranged (before ++ draft :: after)) :
    writtenCount before = explicitCount before := by
  obtain ⟨-, -, single⟩ := List.pairwise_append.mp arranged.last
  have same : before.filter (!·.implicit) = explicits before := by
    refine List.filter_congr fun other member => ?_
    rw [ParameterDraft.isExplicit, single other member draft List.mem_cons_self, Bool.not_false,
      Bool.and_true]
  rw [writtenCount, explicitCount, same]

namespace ParameterDraft
variable {draft : ParameterDraft} {world : World} {inputs : List Event} {place : Nat}

/-- What a parameter hands to its coercion, one after the other, if its place among the inputs is
given. -/
def taken (draft : ParameterDraft) (inputs : List Event) (place : Nat) : List (Option Event) :=
  if draft.variadic then
    if draft.mapped then (inputs.drop place).map some else [some (.group (inputs.drop place))]
  else if draft.implicit then [none]
  else inputs[place]?.toList.map some

/-- The coercion succeeds on all that it is handed. -/
def Succeeds (draft : ParameterDraft) (world : World) (inputs : List Event) (place : Nat) : Prop :=
  ∀ event ∈ draft.taken inputs place, ∃ datum, draft.coercion world event = .ok datum

/-- A parameter whose coercion succeeds fails only for want of an input. -/
theorem missing_of_gives {command : String} {failure : Failure}
    (apart : draft.implicit = true → draft.variadic = false)
    (succeeds : draft.Succeeds world inputs place)
    (gives : draft.Gives command world inputs place (.error failure)) :
    draft.IsRequired ∧ inputs.length ≤ place ∧
      failure = (Failure.ofCause (.missingArgument draft.name)).annotate
        (draft.notes command (some (inputs.length + 1))) := by
  have reads {event : Option Event} {notes : Context}
      (member : event ∈ draft.taken inputs place)
      (fails : annotateResult notes (draft.coercion world event) = .error failure) : False := by
    obtain ⟨datum, read⟩ := succeeds event member
    rw [annotateResult_eq_ok.mpr read] at fails
    cases fails
  cases gives with
  | implicit implicit fails => exact (reads (by simp [taken, implicit, apart implicit]) fails).elim
  | input explicit present fails =>
      refine (reads ?_ fails).elim
      simp [taken, not_variadic_of_explicit explicit, not_implicit_of_explicit explicit, present]
  | missing explicit absent plain required => exact ⟨⟨explicit, plain, required⟩, absent, rfl⟩
  | remainder variadic together fails =>
      exact (reads (by simp [taken, variadic, together]) fails).elim
  | @eachFails earlier later event _ variadic mapped split _ fails =>
      obtain ⟨datum, read⟩ := succeeds (some event) (by simp [taken, variadic, mapped, split])
      cases read.symm.trans fails

/-- A parameter that needs an input is given nothing where there is none. -/
theorem IsRequired.absent {command : String} {datum : Datum} (required : draft.IsRequired)
    (absent : inputs.length ≤ place) : ¬draft.Gives command world inputs place (.ok datum) := by
  intro gives
  have falls := gives.absent_fallsBack required.explicit absent
  simp [required.plain, required.strict] at falls

end ParameterDraft

/-- All coercions succeed on what they are handed of the inputs, and those of mapped parameters make
values. -/
structure CoercionsSucceed (drafts : List ParameterDraft) (world : World) (inputs : List Event) :
    Prop where
  succeed : ∀ before draft after, drafts = before ++ draft :: after →
    draft.Succeeds world inputs (writtenCount before)
  values : ∀ draft ∈ drafts, draft.mapped = true → draft.ReadsValues world

namespace Command
variable {command : Command} {drafts : List ParameterDraft} {world : World} {inputs : List Event}

/-- Binding fails for want of an input for a parameter. -/
def Misses (command : Command) (world : World) (inputs : List Event) (name : String) : Prop :=
  ∃ error, command.bind world inputs = .error (.script error) ∧ error.cause = .missingArgument name

section Checked
variable (checked : List.Forall₂ (fun draft parameter => draft.check = .ok parameter) drafts
  command.parameters)
include checked

/-- Binding gathers all arguments and takes all events, or is refused. -/
theorem bind_outcome (values : ∀ draft ∈ drafts, draft.mapped = true → draft.ReadsValues world)
    (inputs : List Event) :
    (∃ bound, command.bind world inputs = .ok bound ∧
      Gathered command.name world inputs 0 drafts bound ∧ TakesAll inputs 0 drafts) ∨
    ∃ failure, command.bind world inputs = .error failure ∧
      Refused command.name world inputs 0 drafts failure := by
  have outcome :=
    bindFrom_outcome checked (Arranged.of_checked checked).last values command.name inputs 0
  rwa [Nat.zero_min, List.drop_zero] at outcome

/-- What a parameter is bound to is what it is given at its place. -/
theorem gives_of_bind (values : ∀ draft ∈ drafts, draft.mapped = true → draft.ReadsValues world)
    {bound : Bound} (binds : command.bind world inputs = .ok bound)
    {before after : List ParameterDraft}
    {draft : ParameterDraft} (split : drafts = before ++ draft :: after) :
    ∃ datum, bound.get? draft.name = some datum ∧
      draft.Gives command.name world inputs (writtenCount before) (.ok datum) := by
  have arranged := Arranged.of_checked checked
  rcases bind_outcome checked values inputs with ⟨other, binds', gathered, -⟩ | ⟨failure, fails, -⟩
  · obtain rfl := Except.ok.inj (binds'.symm.trans binds)
    have differ : other.keys.Nodup := gathered.keys_eq ▸ arranged.differ
    subst split
    obtain ⟨datum, member, gives⟩ := gathered.exists_of_split
    rw [Nat.zero_add, ← arranged.writtenCount_eq] at gives
    exact ⟨datum, Table.get?_of_mem differ member, gives⟩
  · cases fails.symm.trans binds

/-- Where all coercions succeed, binding fails for want of an input of the first parameter that
needs one and has none, or for inputs left over. -/
theorem fails_of_succeed (succeed : CoercionsSucceed drafts world inputs) {failure : Failure}
    (fails : command.bind world inputs = .error failure) :
    (∃ before draft after, drafts = before ++ draft :: after ∧
      AllGiven command.name world inputs before ∧ draft.IsRequired ∧
      inputs.length ≤ explicitCount before ∧
      failure = (Failure.ofCause (.missingArgument draft.name)).annotate
        (draft.notes command.name (some (inputs.length + 1)))) ∨
    explicitCount drafts < inputs.length ∧ (∀ draft ∈ drafts, draft.variadic = false) ∧
      failure = surplusFailure command.name inputs (explicitCount drafts) := by
  have arranged := Arranged.of_checked checked
  rcases bind_outcome checked succeed.values inputs with
    ⟨bound, binds, -⟩ | ⟨other, fails', refused⟩
  · cases fails.symm.trans binds
  · obtain rfl := Except.error.inj (fails.symm.trans fails')
    rcases refused.first with
      ⟨before, draft, after, bound, rfl, gathered, gives⟩ | ⟨-, surplus, rfl⟩
    · have succeeds := succeed.succeed before draft after rfl
      rw [arranged.writtenCount_eq] at succeeds
      rw [Nat.zero_add] at gives
      have apart := arranged.apart draft (List.mem_append_right _ List.mem_cons_self)
      obtain ⟨required, absent, same⟩ := ParameterDraft.missing_of_gives apart succeeds gives
      exact .inl ⟨before, draft, after, rfl, gathered.allGiven, required, absent, same⟩
    · simp only [TakesAll, Nat.zero_add, not_or, Nat.not_le, not_exists, not_and,
        Bool.not_eq_true] at surplus
      rw [Nat.zero_add]
      exact .inr ⟨surplus.1, surplus.2, rfl⟩

/-- Inputs for the parameters before one are too few exactly if that one needs an input. -/
theorem misses_iff (succeed : CoercionsSucceed drafts world inputs)
    {before after : List ParameterDraft}
    {draft : ParameterDraft} (split : drafts = before ++ draft :: after)
    (length : inputs.length = writtenCount before) :
    command.Misses world inputs draft.name ↔ draft.IsRequired := by
  have arranged := Arranged.of_checked checked
  have count : writtenCount before = explicitCount before := (split ▸ arranged).writtenCount_eq
  constructor
  · rintro ⟨error, fails, cause⟩
    rcases fails_of_succeed checked succeed fails with
      ⟨before', draft', after', split', -, required, -, same⟩ | ⟨-, -, same⟩
    · obtain rfl := Failure.script.inj same
      have name : draft'.name = draft.name := Cause.missingArgument.inj cause
      have member : draft ∈ drafts := split ▸ List.mem_append_right _ List.mem_cons_self
      have member' : draft' ∈ drafts := split' ▸ List.mem_append_right _ List.mem_cons_self
      exact List.inj_on_of_nodup_map arranged.differ member' member name ▸ required
    · obtain rfl := Failure.script.inj same
      cases cause
  · intro required
    rcases bind_outcome checked succeed.values inputs with ⟨bound, binds, -⟩ | ⟨failure, fails, -⟩
    · obtain ⟨datum, -, gives⟩ := gives_of_bind checked succeed.values binds split
      exact absurd gives (required.absent (Nat.le_of_eq length))
    rcases fails_of_succeed checked succeed fails with
      ⟨before', draft', after', split', given, required', absent, same⟩ | ⟨surplus, -, -⟩
    · -- the parameter that fails is neither a later one, nor one before, which has its input
      obtain rfl : draft = draft' := by
        rcases List.append_eq_append_iff.mp (split.symm.trans split') with
          ⟨more, rfl, tail⟩ | ⟨more, rfl, tail⟩
        · cases more with
          | nil => exact (List.cons.inj tail).1
          | cons other more =>
              obtain ⟨rfl, -⟩ := List.cons.inj tail
              obtain ⟨datum, gives⟩ := given before draft more rfl
              exact absurd gives (required.absent (count ▸ Nat.le_of_eq length))
        · cases more with
          | nil => exact (List.cons.inj tail).1.symm
          | cons other more =>
              obtain ⟨rfl, -⟩ := List.cons.inj tail
              rw [explicitCount_append, explicitCount_cons,
                explicitCount_singleton_of_explicit required'.explicit] at count
              omega
      subst same
      exact ⟨_, fails, rfl⟩
    · rw [split, explicitCount_append] at surplus
      omega

/-- A variadic parameter takes all inputs from its place on, however many there are. -/
theorem exists_bind_of_variadic (succeed : CoercionsSucceed drafts world inputs)
    {before after : List ParameterDraft} {draft : ParameterDraft}
    (split : drafts = before ++ draft :: after) (variadic : draft.variadic = true)
    (enough : writtenCount before ≤ inputs.length) :
    ∃ bound datum, command.bind world inputs = .ok bound ∧ bound.get? draft.name = some datum ∧
      if draft.mapped then ∃ values : List Value, datum = .value (.list values) ∧
        List.Forall₂ (fun event value => draft.coercion world (some event) = .ok (.value value))
          (inputs.drop (writtenCount before)) values
      else draft.coercion world (some (.group (inputs.drop (writtenCount before)))) =
        .ok datum := by
  have arranged := Arranged.of_checked checked
  have member : draft ∈ drafts := split ▸ List.mem_append_right _ List.mem_cons_self
  have named := arranged.named member variadic
  have count : writtenCount before = explicitCount drafts := by
    rw [split] at arranged ⊢
    exact arranged.writtenCount_eq.trans (arranged.explicitCount_eq variadic)
  rcases bind_outcome checked succeed.values inputs with ⟨bound, binds, -⟩ | ⟨failure, fails, -⟩
  · obtain ⟨datum, found, gives⟩ := gives_of_bind checked succeed.values binds split
    refine ⟨bound, datum, binds, found, ?_⟩
    split_ifs with mapped
    · cases gives with
      | implicit implicit => simp [named] at implicit
      | input explicit | default explicit | null explicit =>
          simp [ParameterDraft.not_variadic_of_explicit explicit] at variadic
      | remainder _ together => simp [mapped] at together
      | each _ _ reads => exact ⟨_, rfl, reads⟩
    · exact gives.remainder_reads named variadic (eq_false_of_ne_true mapped)
  · exfalso
    rcases fails_of_succeed checked succeed fails with
      ⟨before', draft', after', split', -, required, absent, -⟩ | ⟨-, single, -⟩
    · rw [count, split', explicitCount_append, explicitCount_cons,
        explicitCount_singleton_of_explicit required.explicit] at enough
      omega
    · simp [single draft member] at variadic

end Checked
end Command

/-! ### Coercions that tell what they are handed -/

/-- The coercion that gives the event that it is handed. -/
def echo (_name : String) : Coercion := fun _ event => .ok (.value (event.elim .nothing .event))

/-- Coercions that give back what they are handed succeed. -/
theorem coercionsSucceed_echo (drafts : List ParameterDraft) (world : World) (inputs : List Event) :
    CoercionsSucceed (drafts.map (·.recoerced echo)) world inputs where
  succeed before draft after split := by
    have member : draft ∈ drafts.map (·.recoerced echo) :=
      split ▸ List.mem_append_right _ List.mem_cons_self
    obtain ⟨original, -, rfl⟩ := List.mem_map.mp member
    exact fun event _ => ⟨_, rfl⟩
  values draft member _ := by
    obtain ⟨original, -, rfl⟩ := List.mem_map.mp member
    rintro event datum ⟨⟩
    exact ⟨_, rfl⟩

/-! ### Implicit parameters -/

/-- Whether a parameter takes no input. -/
def Intake.isImplicit : Intake → Bool
  | implicit => true
  | _ => false

/-- An implicit parameter takes no event. -/
theorem Parameter.take_implicit {parameter : Parameter}
    (implicit : parameter.intake.isImplicit = true)
    {world : World} {datum : Datum} (reads : parameter.coercion world none = .ok datum)
    {command : String} {position : Nat} {events : List Event} :
    parameter.take command world position events = .ok (datum, events) := by
  obtain ⟨name, coercion, intake⟩ := parameter
  cases intake with
  | single | remainder | each => cases implicit
  | implicit =>
      change coercion world none = _ at reads
      change (·, events) <$> annotateResult _ (coercion world none) = _
      rw [reads]
      rfl

/-- Implicit parameters whose coercions succeed change neither what binds nor how binding fails. -/
theorem bindFrom_written {command : String} {world : World} {parameters : List Parameter}
    (reads : ∀ parameter ∈ parameters, parameter.intake.isImplicit = true →
      ∃ datum, parameter.coercion world none = .ok datum) (position : Nat) (events : List Event) :
    (bindFrom command world parameters position events).map (fun _ => ()) =
      (bindFrom command world (parameters.filter (!·.intake.isImplicit)) position events).map
        fun _ => () := by
  induction parameters generalizing position events with
  | nil => rfl
  | cons parameter parameters ih =>
      obtain ⟨own, others⟩ := List.forall_mem_cons.mp reads
      have later (result : Except Failure Bound) (entry : String × Datum) :
          (result >>= fun bound => return entry :: bound).map (fun _ => ()) =
            result.map fun _ => () := by
        cases result <;> rfl
      cases implicit : parameter.intake.isImplicit with
      | true =>
          obtain ⟨datum, read⟩ := own implicit
          rw [List.filter_cons_of_neg (by simp [implicit]), bindFrom,
            Parameter.take_implicit implicit read, ← ih others]
          change (bindFrom command world parameters
            (position + (events.length - events.length)) events >>=
              fun bound => return (parameter.name, datum) :: bound).map _ = _
          rw [later, Nat.sub_self, Nat.add_zero]
      | false =>
          rw [List.filter_cons_of_pos (by simp [implicit]), bindFrom, bindFrom]
          cases takes : parameter.take command world position events with
          | error other => rfl
          | ok taken =>
              obtain ⟨datum, rest⟩ := taken
              exact (later _ _).trans ((ih others _ _).trans (later _ _).symm)

/-! ### What the forms say -/

namespace Command
variable {command : Command} {drafts before after : List ParameterDraft} {draft : ParameterDraft}

/-- Whatever coercions succeed, as many inputs as come before a parameter are not refused for want
of one for it, and once there are more, what it is bound to is read of the input of its place alone.
-/
def TakesOne (command : Command) (drafts : List ParameterDraft) (draft : ParameterDraft)
    (place : Nat) : Prop :=
  ∀ coercion world inputs, CoercionsSucceed (drafts.map (·.recoerced coercion)) world inputs →
    (inputs.length = place → ¬(command.recoerced coercion).Misses world inputs draft.name) ∧
    ∀ bound, place < inputs.length → (command.recoerced coercion).bind world inputs = .ok bound →
      ∃ event datum, inputs[place]? = some event ∧ bound.get? draft.name = some datum ∧
        coercion draft.name world (some event) = .ok datum

/-- Whatever coercions succeed, any number of inputs that reaches the place of a parameter is bound,
and what it is bound to is read of all inputs from its place on: item by item if it is mapped. -/
def TakesRest (command : Command) (drafts : List ParameterDraft) (draft : ParameterDraft)
    (place : Nat) : Prop :=
  ∀ coercion world inputs, CoercionsSucceed (drafts.map (·.recoerced coercion)) world inputs →
    place ≤ inputs.length →
      ∃ bound datum, (command.recoerced coercion).bind world inputs = .ok bound ∧
        bound.get? draft.name = some datum ∧
        if draft.mapped then ∃ values : List Value, datum = .value (.list values) ∧
          List.Forall₂
            (fun event value => coercion draft.name world (some event) = .ok (.value value))
            (inputs.drop place) values
        else coercion draft.name world (some (.group (inputs.drop place))) = .ok datum

/-- With other coercions as many parameters are written as before. -/
theorem writtenCount_recoerced (coercion : String → Coercion) (drafts : List ParameterDraft) :
    writtenCount (drafts.map (·.recoerced coercion)) = writtenCount drafts := by
  simp [writtenCount, List.filter_map, Function.comp_def, ParameterDraft.recoerced]

/-- With other coercions a draft has the same drafts before and after it. -/
theorem split_recoerced (split : drafts = before ++ draft :: after) (coercion : String → Coercion) :
    drafts.map (·.recoerced coercion) = before.map (·.recoerced coercion) ++
      draft.recoerced coercion :: after.map (·.recoerced coercion) := by
  rw [split, List.map_append, List.map_cons]

/-- With another coercion a draft is required as before. -/
theorem isRequired_recoerced {coercion : String → Coercion} :
    (draft.recoerced coercion).IsRequired ↔ draft.IsRequired :=
  ⟨fun ⟨explicit, plain, strict⟩ => ⟨explicit, plain, strict⟩,
    fun ⟨explicit, plain, strict⟩ => ⟨explicit, plain, strict⟩⟩

/-- One input is not read as all that are left, unless the coercion does not tell. -/
theorem not_takesOne_and_takesRest {place : Nat} (one : command.TakesOne drafts draft place)
    (rest : command.TakesRest drafts draft place) : False := by
  have length : (List.replicate (place + 1) (Event.group [])).length = place + 1 :=
    List.length_replicate
  obtain ⟨bound, datum, binds, found, reads⟩ :=
    rest echo {} (List.replicate (place + 1) (.group [])) (coercionsSucceed_echo ..) (by omega)
  obtain ⟨event, other, present, found', reads'⟩ :=
    (one echo {} _ (coercionsSucceed_echo ..)).2 bound (by omega) binds
  obtain rfl := Option.some.inj (found.symm.trans found')
  obtain rfl : event = .group [] := List.eq_of_mem_replicate (List.mem_of_getElem? present)
  obtain rfl := Except.ok.inj reads'
  split_ifs at reads
  · obtain ⟨values, same, -⟩ := reads
    cases same
  · rw [List.drop_replicate, Nat.add_sub_cancel_left] at reads
    cases reads

section Checked
variable (checked : List.Forall₂ (fun draft parameter => draft.check = .ok parameter) drafts
  command.parameters) (split : drafts = before ++ draft :: after)
include checked split

/-- Where coercions succeed, an argument is missing if and only if its draft is required and no
event is left for it. -/
theorem misses_recoerced_iff {coercion : String → Coercion} {world : World} {inputs : List Event}
    (succeed : CoercionsSucceed (drafts.map (·.recoerced coercion)) world inputs)
    (length : inputs.length = writtenCount before) :
    (command.recoerced coercion).Misses world inputs draft.name ↔ draft.IsRequired := by
  have split' := split_recoerced split coercion
  rw [← writtenCount_recoerced coercion] at length
  exact (misses_iff (checked_recoerced checked) succeed split' length).trans isRequired_recoerced

/-- A variadic parameter takes the rest. -/
theorem takesRest_of_variadic (variadic : draft.variadic = true) :
    command.TakesRest drafts draft (writtenCount before) := by
  intro coercion world inputs succeed enough
  have split' := split_recoerced split coercion
  have binds := exists_bind_of_variadic (checked_recoerced checked) succeed split' variadic
  rw [writtenCount_recoerced] at binds
  exact binds enough

/-- An explicit parameter that is not required takes one event, if there is one. -/
theorem takesOne_of_explicit (explicit : draft.isExplicit = true) (optional : ¬draft.IsRequired) :
    command.TakesOne drafts draft (writtenCount before) := by
  intro coercion world inputs succeed
  refine ⟨fun length => (misses_recoerced_iff checked split succeed length).not.mpr optional, ?_⟩
  intro bound more binds
  have split' := split_recoerced split coercion
  obtain ⟨datum, found, gives⟩ :=
    gives_of_bind (checked_recoerced checked) succeed.values binds split'
  rw [writtenCount_recoerced] at gives
  have present := List.getElem?_eq_getElem more
  exact ⟨_, datum, present, found, gives.input_reads explicit present⟩

/-- A parameter that is written takes the rest if and only if it is variadic. -/
theorem takesRest_iff (named : draft.implicit = false) :
    command.TakesRest drafts draft (writtenCount before) ↔ draft.variadic = true := by
  refine ⟨fun takes => ?_, takesRest_of_variadic checked split⟩
  by_contra single
  rw [Bool.not_eq_true] at single
  have explicit : draft.isExplicit = true := by simp [ParameterDraft.isExplicit, named, single]
  have optional : ¬draft.IsRequired := by
    intro required
    obtain ⟨bound, datum, binds, -⟩ :=
      takes echo {} (List.replicate (writtenCount before) (.group []))
      (coercionsSucceed_echo ..) (Nat.le_of_eq List.length_replicate.symm)
    obtain ⟨error, fails, -⟩ := (misses_recoerced_iff checked split (coercionsSucceed_echo ..)
      List.length_replicate).mpr required
    cases binds.symm.trans fails
  exact not_takesOne_and_takesRest (takesOne_of_explicit checked split explicit optional) takes

/-- A parameter that is written takes one event, if there is one, if and only if it is explicit and
not required. -/
theorem takesOne_iff (named : draft.implicit = false) :
    command.TakesOne drafts draft (writtenCount before) ↔
      draft.isExplicit = true ∧ ¬draft.IsRequired := by
  refine ⟨fun takes => ⟨?_, fun required => ?_⟩,
    fun ⟨explicit, optional⟩ => takesOne_of_explicit checked split explicit optional⟩
  · cases variadic : draft.variadic with
    | false => simp [ParameterDraft.isExplicit, named, variadic]
    | true =>
        exact (not_takesOne_and_takesRest takes
          (takesRest_of_variadic checked split variadic)).elim
  · exact (takes echo {} (List.replicate (writtenCount before) (.group []))
      (coercionsSucceed_echo ..)).1 List.length_replicate
        ((misses_recoerced_iff checked split (coercionsSucceed_echo ..)
          List.length_replicate).mpr required)

end Checked
end Command

/-- The words of a usage show the drafts of a command one by one. -/
theorem forall₂_shows {drafts : List ParameterDraft} {parameters : List Parameter}
    {words : List (Option String)}
    (checked : List.Forall₂ (fun draft parameter => draft.check = .ok parameter) drafts parameters)
    (usages : List.Forall₂ (fun parameter word => parameter.usage? = .ok word) parameters words) :
    List.Forall₂ ParameterDraft.Shows drafts words := by
  induction checked generalizing words with
  | nil =>
      cases usages
      exact .nil
  | cons first _ ih =>
      cases usages with
      | cons usage others => exact .cons (ParameterDraft.shows_of_usage? first usage) (ih others)

/-- The coercions of a command are among those that are given for the names of its parameters. -/
theorem Command.exists_recoerced_self {command : Command} {drafts : List ParameterDraft}
    (checked : List.Forall₂ (fun draft parameter => draft.check = .ok parameter) drafts
      command.parameters) :
    ∃ coercion, command.recoerced coercion = command ∧
      drafts.map (·.recoerced coercion) = drafts := by
  let coercion (name : String) : Coercion :=
    ((drafts.find? (·.name == name)).map (·.coercion)).getD (echo name)
  have own (draft : ParameterDraft) (declared : draft ∈ drafts) :
      coercion draft.name = draft.coercion := by
    have differ := (Arranged.of_checked checked).differ
    have found :=
      (find?_key_eq_some_iff ParameterDraft.name differ draft.name draft).mpr ⟨declared, rfl⟩
    simp only [coercion, found, Option.map_some, Option.getD_some]
  have parameters : command.parameters.map (·.recoerced coercion) = command.parameters := by
    refine (List.map_congr_left fun parameter member => ?_).trans (List.map_id' _)
    obtain ⟨draft, declared, accepted⟩ := exists_of_mem_right checked member
    obtain ⟨intake, -, rfl⟩ := ParameterDraft.check_eq_ok accepted
    exact congrArg (Parameter.mk draft.name · intake) (own draft declared)
  refine ⟨coercion, ?_, (List.map_congr_left fun draft declared => ?_).trans (List.map_id' _)⟩
  · obtain ⟨name, others, handler, doc, wellFormed⟩ := command
    simp only [recoerced, mk.injEq, and_self, and_true, true_and]
    exact parameters
  · rw [ParameterDraft.recoerced, own draft declared]

/-- **Usage and binding.** A command whose defaults can be shown has a usage, which shows the
written parameters in the order of declaration, each in one of three forms. Where all coercions
succeed, a name stands in angle brackets just if as many inputs as come before it are refused for
want of one for it. It stands in square brackets just if, whatever coercions are put in place of
those of the parameters, it is never refused for want of an input and is bound to the one at its
place; and after dots just if, whatever coercions are put in their place, any number of inputs is
bound, and it takes all that are left. The implicit parameters are not shown, and without them the
same inputs are bound, and refused as they are. -/
theorem usage_tellsBinding {command : Command} {drafts : List ParameterDraft}
    (checked : List.Forall₂ (fun draft parameter => draft.check = .ok parameter) drafts
      command.parameters) (shown : command.ShowsDefaults) :
    ∃ words : List String,
      (∀ subsystem : Option String, command.usage subsystem = .ok (" ".intercalate
        ((subsystem.filter (!·.isEmpty)).toList ++ command.name :: words))) ∧
      words.length = writtenCount drafts ∧
      (∀ before draft after, drafts = before ++ draft :: after → draft.implicit = false →
        ∃ word, words[writtenCount before]? = some word ∧ draft.Shows (some word) ∧
          (∀ world inputs, CoercionsSucceed drafts world inputs →
            inputs.length = writtenCount before →
              (word = "<" ++ draft.name ++ ">" ↔ command.Misses world inputs draft.name)) ∧
          ((word = "[" ++ draft.name ++ "]" ∨ ∃ value shown, draft.default = some (.value value) ∧
              value.render = .ok shown ∧ word = "[" ++ draft.name ++ "=" ++ shown ++ "]") ↔
            command.TakesOne drafts draft (writtenCount before)) ∧
          (word = "..." ++ draft.name ↔ command.TakesRest drafts draft (writtenCount before))) ∧
      (∃ coercion, command.recoerced coercion = command ∧
        drafts.map (·.recoerced coercion) = drafts) ∧
      ∀ world, (∀ draft ∈ drafts, draft.implicit = true →
          ∃ datum, draft.coercion world none = .ok datum) →
        ∀ inputs, (command.bind world inputs).map (fun _ => ()) =
          (bindFrom command.name world (command.parameters.filter (!·.intake.isImplicit)) 1
            inputs).map fun _ => () := by
  obtain ⟨words, usages⟩ := Command.exists_words_iff.mpr shown
  have shows := forall₂_shows checked usages
  refine ⟨words.filterMap id, fun subsystem => Command.usage_eq_ok_iff.mpr ⟨words, usages, rfl⟩,
    length_words shows, ?_, Command.exists_recoerced_self checked, ?_⟩
  · rintro before draft after rfl named
    obtain ⟨word, found, form⟩ := exists_word shows named
    obtain ⟨required, optional, variadic⟩ := form.forms
    refine ⟨word, found, form, fun world inputs succeed length => ?_,
      optional.trans (Command.takesOne_iff checked rfl named).symm,
      variadic.trans (Command.takesRest_iff checked rfl named).symm⟩
    exact required.trans (Command.misses_iff checked succeed rfl length).symm
  · intro world reads inputs
    refine bindFrom_written (fun parameter member implicit => ?_) 1 inputs
    obtain ⟨draft, declared, accepted⟩ := exists_of_mem_right checked member
    obtain ⟨intake, asks, rfl⟩ := ParameterDraft.check_eq_ok accepted
    cases asks with
    | implicit isImplicit => exact reads draft declared isImplicit
    | single | remainder | each => cases implicit

/-- The coercions of the parameters succeed where no input is given. -/
theorem coercionsSucceed_tallyDrafts : CoercionsSucceed tallyDrafts tallyWorld [] where
  succeed before draft after split := by
    have member : draft ∈ tallyDrafts := split ▸ List.mem_append_right _ List.mem_cons_self
    simp only [tallyDrafts, List.mem_cons, List.not_mem_nil, or_false] at member
    rcases member with rfl | rfl | rfl | rfl
    · exact fun event _ => ⟨_, rfl⟩
    all_goals
      intro event taken
      simp [ParameterDraft.taken] at taken
  values := readsValues_tallyDrafts

/-- One label has to be given, a unit may be, and any number of items. -/
theorem usage_tellsBinding_tally :
    tally.usage (some "Market") = .ok "Market Tally <label> [unit=token] ...items" ∧
      tally.Misses tallyWorld [] "label" ∧
      tally.TakesOne tallyDrafts
        { name := "unit", coercion := Coerce.string,
          default := some (.value (.string "token")) } 1 ∧
      tally.TakesRest tallyDrafts
        { name := "items", coercion := Coerce.number, variadic := true, mapped := true } 2 := by
  have checked : List.Forall₂ (fun draft parameter => draft.check = .ok parameter) tallyDrafts
      tally.parameters := .cons rfl (.cons rfl (.cons rfl (.cons rfl .nil)))
  have usage : tally.usage (some "Market") = .ok "Market Tally <label> [unit=token] ...items" := rfl
  obtain ⟨words, -, -, forms, -⟩ :=
    usage_tellsBinding checked (Command.exists_usage_iff.mp ⟨_, usage⟩)
  obtain ⟨_, -, label, misses, -⟩ := forms (tallyDrafts.take 1) _ _ rfl rfl
  obtain ⟨_, -, unit, -, takesOne, -⟩ := forms (tallyDrafts.take 2) _ _ rfl rfl
  obtain ⟨_, -, items, -, -, takesRest⟩ := forms (tallyDrafts.take 3) _ _ rfl rfl
  have required := (misses tallyWorld [] coercionsSucceed_tallyDrafts rfl).mp
    (label.forms.1.mpr ⟨rfl, rfl, rfl⟩)
  refine ⟨usage, required, takesOne.mp (unit.forms.2.1.mpr ⟨rfl, ?_⟩),
    takesRest.mp (items.forms.2.2.mpr rfl)⟩
  rintro ⟨-, ⟨⟩, -⟩

/-! ### What usages do not tell -/

/-- A view with given parameters. -/
def viewOf (parameters : List Parameter) (wellFormed : firstMisfit? "Take" [] parameters = none) :
    Command where
  name := "Take"
  parameters := parameters
  handler := .view fun _ _ => .done (.datum (.value .nothing))
  wellFormed := wellFormed

/-- A view that takes any number of contracts, into a list. -/
def takesContracts : Command := viewOf [⟨"items", Coerce.contract "PriceOracle", .each⟩] rfl

/-- Contracts are found for all items, but no list is made of them. -/
theorem not_bind_takesContracts :
    takesContracts.usage (some "Sub") = .ok "Sub Take ...items" ∧
      (∀ event, Coerce.contract "PriceOracle" tallyWorld event =
        .ok (.contract ⟨"PriceOracle", "Standard", "0x9", none⟩)) ∧
      ∀ bound, takesContracts.bind tallyWorld [.bare "x"] ≠ .ok bound := by
  refine ⟨rfl, fun _ => rfl, fun bound binds => ?_⟩
  cases binds

/-- A view that takes a contract, whatever is written for it. -/
def takesContract : Command := viewOf [⟨"items", Coerce.contract "PriceOracle", .remainder⟩] rfl

/-- The contract is the one that would be read of the first input alone. -/
theorem takesContract_readsFirst :
    takesContract.usage (some "Sub") = .ok "Sub Take ...items" ∧
      ¬takesContract.Misses tallyWorld [] "items" ∧
      ∀ inputs bound, 1 ≤ inputs.length → takesContract.bind tallyWorld inputs = .ok bound →
        ∃ event datum, inputs[0]? = some event ∧ bound.get? "items" = some datum ∧
          Coerce.contract "PriceOracle" tallyWorld (some event) = .ok datum := by
  refine ⟨rfl, ?_, fun inputs bound written binds => ?_⟩
  · rintro ⟨error, ⟨⟩, -⟩
  · obtain ⟨event, others, rfl⟩ := List.exists_cons_of_length_pos written
    obtain rfl := Except.ok.inj binds
    exact ⟨event, _, rfl, rfl, rfl⟩

/-- A coercion that gives one text, whatever is written. -/
def readsAny : Coercion := fun _ _ => .ok (.value (.string "any"))

/-- A view that falls back on that text for its first input. -/
def takesAny : Command :=
  viewOf [.defaulted "first" readsAny (.string "any"), .remainder "rest" readsAny] rfl

/-- Any number of inputs is bound, the first parameter to what would be read of them all. -/
theorem takesAny_readsAll :
    takesAny.usage (some "Sub") = .ok "Sub Take [first=any] ...rest" ∧
      ∀ inputs, ∃ bound datum, takesAny.bind tallyWorld inputs = .ok bound ∧
        bound.get? "first" = some datum ∧
        readsAny tallyWorld (some (.group inputs)) = .ok datum := by
  refine ⟨rfl, fun inputs => ?_⟩
  cases inputs with
  | nil => exact ⟨_, _, rfl, rfl, rfl⟩
  | cons event others => exact ⟨_, _, rfl, rfl, rfl⟩

/-- A view that takes a label, and an amount with a default beyond what can be shown. -/
def takesAmount : Command :=
  viewOf [.required "label" Coerce.string,
    .defaulted "amount" Coerce.number (.number ⟨false, 1, 1000000⟩ 0)] rfl

/-- The label is required, but there is no usage to show it. -/
theorem takesAmount_isNotShown :
    takesAmount.usage (some "Sub") = .error .overflow ∧
      takesAmount.Misses tallyWorld [] "label" :=
  ⟨rfl, _, rfl, rfl⟩

/-- Four commands of which the forms of the usage say too much or too little: contracts fit into no
list; a coercion that pays no heed to what is written reads all inputs as it does the first, and the
first as it does all; and a default may have no shown form. -/
theorem usages_sayOtherwise :
    (takesContracts.usage (some "Sub") = .ok "Sub Take ...items" ∧
      (∀ event, Coerce.contract "PriceOracle" tallyWorld event =
        .ok (.contract ⟨"PriceOracle", "Standard", "0x9", none⟩)) ∧
      ∀ bound, takesContracts.bind tallyWorld [.bare "x"] ≠ .ok bound) ∧
    (takesContract.usage (some "Sub") = .ok "Sub Take ...items" ∧
      ¬takesContract.Misses tallyWorld [] "items" ∧
      ∀ inputs bound, 1 ≤ inputs.length → takesContract.bind tallyWorld inputs = .ok bound →
        ∃ event datum, inputs[0]? = some event ∧ bound.get? "items" = some datum ∧
          Coerce.contract "PriceOracle" tallyWorld (some event) = .ok datum) ∧
    (takesAny.usage (some "Sub") = .ok "Sub Take [first=any] ...rest" ∧
      ∀ inputs, ∃ bound datum, takesAny.bind tallyWorld inputs = .ok bound ∧
        bound.get? "first" = some datum ∧
        readsAny tallyWorld (some (.group inputs)) = .ok datum) ∧
    takesAmount.usage (some "Sub") = .error .overflow ∧
      takesAmount.Misses tallyWorld [] "label" :=
  ⟨not_bind_takesContracts, takesContract_readsFirst, takesAny_readsAll, takesAmount_isNotShown⟩

end Playbook
