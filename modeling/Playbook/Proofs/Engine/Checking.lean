import Playbook.CommandLine.Run
import Playbook.Proofs.Engine.ActionLog
import Playbook.Proofs.Engine.ScriptErrors

/-! # Checking before running

A script is checked by binding all of its statements in one world, though a run binds each in the
world that those before it have made. Since a run only ever adds to what can be found by name, what
can be bound in the first world can be bound in all of them; and what is bound does not fail when
nothing is refused.
-/

namespace Playbook

/-- The invoker carries out every call. -/
def Invoker.AcceptsAll (invoker : Invoker) : Prop :=
  ∀ records earlier call sender,
    ∃ receipt, invoker.answer records earlier call sender = .ok receipt ∧ receipt.success = true

/-- The verifier accepts every contract. -/
def Verifier.AcceptsAll (verifier : Verifier) : Prop :=
  ∀ records earlier verification, verifier.answer records earlier verification = .ok ()

/-- A world in which nothing that is asked for is refused. -/
structure World.RefusesNothing (world : World) : Prop where
  writable : world.readOnly = false
  invoker : ∃ invoker, world.invoker = some invoker ∧ invoker.AcceptsAll
  verifier : ∃ verifier, world.verifier = some verifier ∧ verifier.AcceptsAll

namespace World.RefusesNothing
variable {world after : World}

/-- A world that continues one that refuses nothing refuses nothing. -/
theorem continues (refusesNothing : world.RefusesNothing) (continues : world.Continues after) :
    after.RefusesNothing where
  writable := continues.readOnly.trans refusesNothing.writable
  invoker := continues.invoker ▸ refusesNothing.invoker
  verifier := continues.verifier ▸ refusesNothing.verifier

/-- Where nothing is refused, no call fails. -/
theorem ends_invoke (refusesNothing : world.RefusesNothing) (call : MethodCall)
    (sender : Option String) :
    (Play.invoke world call sender).Ends (fun _ => True) fun _ => False := by
  obtain ⟨invoker, isInvoker, accepts⟩ := refusesNothing.invoker
  apply Play.ends_invoke
  intro earlier
  obtain ⟨receipt, answer, success⟩ := accepts world.toRecords earlier call (world.senderOf sender)
  simp only [World.send, refusesNothing.writable, isInvoker, answer, success]
  trivial

/-- Where nothing is refused, no verification fails. -/
theorem ends_requestVerification (refusesNothing : world.RefusesNothing)
    (verification : Verification) :
    (Play.requestVerification world.asReadOnly verification).Ends (fun _ => True)
      fun _ => False := by
  obtain ⟨verifier, isVerifier, accepts⟩ := refusesNothing.verifier
  have same : world.asReadOnly.verifier = some verifier := isVerifier
  apply Play.ends_requestVerification
  intro earlier
  simp only [World.sendVerification, same, accepts world.asReadOnly.toRecords earlier verification]
  trivial

end World.RefusesNothing

/-! ### Binding in a later world -/

section
variable {world after : World} (resolves : world.StillResolves after)
include resolves

/-- A token that stands for an address goes on standing for one. -/
theorem Coerce.exists_addressOfToken {token : String}
    (reads : ∃ value, addressOfToken world token = .ok value) :
    ∃ value, addressOfToken after token = .ok value := by
  unfold addressOfToken Records.resolveAddress at reads ⊢
  split_ifs at reads ⊢
  · exact reads
  · exact reads
  · obtain ⟨value, reads⟩ := reads
    cases found : world.address? token with
    | none =>
        rw [found] at reads
        cases reads
    | some account =>
        obtain ⟨account, found⟩ :=
          Option.isSome_iff_exists.mp (resolves.addresses token (by rw [found]; rfl))
        rw [found]
        exact ⟨_, rfl⟩

/-- An event that stands for an address goes on standing for one. -/
theorem Coerce.exists_addressOfEvent {event : Event}
    (reads : ∃ value, addressOfEvent world event = .ok value) :
    ∃ value, addressOfEvent after event = .ok value := by
  fun_induction addressOfEvent world event with
  | case1 token quoted =>
      rw [addressOfEvent]
      exact exists_addressOfToken resolves reads
  | case2 tag inner isTag ih =>
      rw [addressOfEvent, if_pos isTag]
      exact ih reads
  | case3 tag inner notTag =>
      obtain ⟨value, reads⟩ := reads
      cases reads
  | case4 items notPair =>
      obtain ⟨value, reads⟩ := reads
      cases reads

/-- A contract that is found goes on being found. -/
theorem Coerce.exists_contract {name : String} {event : Option Event}
    (reads : ∃ datum, contract name world event = .ok datum) :
    ∃ datum, contract name after event = .ok datum := by
  obtain ⟨datum, reads⟩ := reads
  obtain ⟨handle, found, rfl⟩ := contract_eq_ok reads
  obtain ⟨other, found⟩ :=
    Option.isSome_iff_exists.mp (resolves.contracts name (by rw [found]; rfl))
  rw [contract, Records.resolveContract, found]
  exact ⟨_, rfl⟩

/-- What can be read in a world can be read in one that resolves the same names. -/
theorem Coercion.IsStandard.exists_reads {coercion : Coercion} (standard : coercion.IsStandard)
    {event : Option Event} (reads : ∃ datum, coercion world event = .ok datum) :
    ∃ datum, coercion after event = .ok datum := by
  cases standard with
  | address =>
      obtain ⟨datum, reads⟩ := reads
      obtain ⟨content, value, rfl, found, rfl⟩ := Coerce.ofEvent_eq_ok reads
      obtain ⟨other, found⟩ := Coerce.exists_addressOfEvent resolves ⟨value, found⟩
      rw [Coerce.address, Coerce.ofEvent, found]
      exact ⟨_, rfl⟩
  | contract name => exact Coerce.exists_contract resolves reads
  -- the other coercions do not look at the world
  | string => exact reads
  | mantissa | count | event => cases event <;> exact reads

/-- An argument that can be taken can be taken later on. -/
theorem Parameter.exists_take {parameter : Parameter} (standard : parameter.IsStandard)
    {command : String} {position : Nat} {events rest : List Event} {datum : Datum}
    (takes : parameter.take command world position events = .ok (datum, rest)) :
    ∃ datum, parameter.take command after position events = .ok (datum, rest) := by
  obtain ⟨name, coercion, intake⟩ := parameter
  have again : ∀ {event notes} {left : List Event},
      (·, left) <$> annotateResult notes (coercion world event) = .ok (datum, rest) →
        ∃ datum, (·, left) <$> annotateResult notes (coercion after event) = .ok (datum, rest) := by
    intro event notes left pairs
    obtain ⟨reads, same⟩ := pair_annotateResult_eq_ok.mp pairs
    obtain ⟨datum, reads⟩ := standard.coercion.exists_reads resolves ⟨datum, reads⟩
    exact ⟨datum, pair_annotateResult_eq_ok.mpr ⟨reads, same⟩⟩
  cases intake with
  | implicit => exact again takes
  | single fallback =>
      cases events with
      | nil => exact ⟨datum, takes⟩
      | cons event events => exact again takes
  | remainder => exact again takes
  | each => exact absurd rfl standard.intake

/-- Events that can be bound can be bound later on. -/
theorem exists_bindFrom {parameters : List Parameter}
    (standard : ∀ parameter ∈ parameters, parameter.IsStandard) {command : String} {position : Nat}
    {events : List Event} {bound : Bound}
    (binds : bindFrom command world parameters position events = .ok bound) :
    ∃ bound, bindFrom command after parameters position events = .ok bound := by
  induction parameters generalizing position events bound with
  | nil =>
      cases events with
      | nil => exact ⟨[], rfl⟩
      | cons event events => cases binds
  | cons parameter parameters ih =>
      obtain ⟨datum, rest, others, takes, bindsOthers, rfl⟩ := bindFrom_cons_eq_ok.mp binds
      obtain ⟨first, later⟩ := List.forall_mem_cons.mp standard
      obtain ⟨other, takes⟩ := Parameter.exists_take resolves first takes
      obtain ⟨bound, bindsOthers⟩ := ih later bindsOthers
      exact ⟨_, bindFrom_cons_eq_ok.mpr ⟨other, rest, bound, takes, bindsOthers, rfl⟩⟩

end

namespace Engine
variable {world after : World} {statement : Statement}

/-- A statement that can be bound in a world can be bound in one that resolves the same names. -/
theorem exists_bindStatement (resolves : world.StillResolves after)
    (binds : ∃ found, standard.bindStatement world statement = .ok found) :
    ∃ found, standard.bindStatement after statement = .ok found := by
  obtain ⟨found, binds⟩ := binds
  obtain ⟨rest, named, isBound⟩ := bindStatement_eq_ok binds
  obtain ⟨bound, bindsAgain⟩ :=
    exists_bindFrom resolves (isStandard_of_named? named).parameters isBound
  exact bindStatement_of_named? named bindsAgain

/-! ### Runs of scripts that were checked -/

/-- A statement that can be bound and is not passed on does not fail where nothing is refused. -/
theorem ends_process_of_bound (refusesNothing : world.RefusesNothing)
    (direct : ∀ rest, standard.named? statement ≠ some (Core.fromCommand, rest))
    (binds : ∃ found, standard.bindStatement world statement = .ok found) (sender : Option String) :
    (standard.process world statement sender).Ends world.Continues fun _ => False := by
  obtain ⟨found, binds⟩ := binds
  have isBound := ends_bindStatement world statement
  apply ends_process keepsNotes_false
  rw [binds] at isBound ⊢
  intro rest named
  apply StandardBound.ends_perform isBound (fun call _ => refusesNothing.ends_invoke call sender)
    fun asked _ => refusesNothing.ends_requestVerification asked
  intro isFrom
  rw [isFrom] at named
  exact absurd named (direct rest)

/-- Statements that can all be bound in one world succeed one after the other where nothing is
refused. -/
theorem ends_processAll_of_checked {statements : List Statement}
    (refusesNothing : world.RefusesNothing)
    (direct : ∀ statement ∈ statements, ∀ rest,
      standard.named? statement ≠ some (Core.fromCommand, rest))
    (checked : ∀ statement ∈ statements, ∃ found,
      standard.bindStatement world statement = .ok found) (sender : Option String) :
    (standard.processAll world sender statements).Ends world.Continues fun _ => False := by
  induction statements generalizing world with
  | nil => exact Play.ends_done (.refl world)
  | cons statement statements ih =>
      obtain ⟨directFirst, directOthers⟩ := List.forall_mem_cons.mp direct
      obtain ⟨bindsFirst, bindsOthers⟩ := List.forall_mem_cons.mp checked
      apply (ends_process_of_bound refusesNothing directFirst bindsFirst sender).bind
      intro next continues
      apply (ih (refusesNothing.continues continues) directOthers ?_).weaken
      · exact fun after later => continues.trans later
      · intro later member
        -- it was checked in the first world, and the next one resolves all that the first does
        exact exists_bindStatement continues.toStillResolves (bindsOthers later member)

/-- The check of a script ends with status zero exactly if all of its statements can be bound. -/
theorem checkReport_status_eq_zero_iff {engine : Engine} {statements : List Statement} :
    (CommandLine.checkReport engine world statements).status = 0 ↔
      ∀ statement ∈ statements, ∃ found, engine.bindStatement world statement = .ok found := by
  have line : ∀ statement, (CommandLine.checkLine engine world statement).1 = true ↔
      ∃ found, engine.bindStatement world statement = .ok found := by
    intro statement
    unfold CommandLine.checkLine
    cases engine.bindStatement world statement with
    | error failure => exact iff_of_false nofun nofun
    | ok found => exact iff_of_true rfl ⟨found, rfl⟩
  have failed : (CommandLine.checkReport engine world statements).status = 0 ↔
      ((statements.map (CommandLine.checkLine engine world)).filter
        fun line => !line.1).length = 0 := by
    change (if _ then 0 else 1) = 0 ↔ _
    split
    next nothing => exact iff_of_true rfl nothing
    next failing => exact iff_of_false nofun failing
  rw [failed, List.length_eq_zero_iff, List.filter_eq_nil_iff, List.forall_mem_map]
  apply forall₂_congr
  intro statement _
  rw [← line statement]
  simp

/-- **Checked scripts run.** If every statement of a script can be bound in one and the same world,
and none is a From, then a run of the script from that world succeeds where no call and no
verification is refused, and adds one action for each mutating statement. The run takes as many
frames of the stack as it needs; `observe_processAllWithin_of_not_exhausts` says which runs are the
same with a limit. -/
theorem runScript_of_checked (world : World) (writable : world.readOnly = false) (text : String)
    (statements : List Statement) (parsed : Script.parse text = .ok statements)
    (direct : ∀ statement ∈ statements, ∀ rest,
      standard.named? statement ≠ some (Core.fromCommand, rest))
    (checked : ∀ statement ∈ statements, ∃ found,
      standard.bindStatement world statement = .ok found)
    (invoker : Invoker) (carriesOut : invoker.AcceptsAll) (verifier : Verifier)
    (accepts : verifier.AcceptsAll) (sender : Option String) (earlier : List Request) :
    let ready : World := { world with invoker := some invoker, verifier := some verifier }
    ∃ after added, ((standard.runScript ready text sender).run earlier).result = .ok after ∧
      standard.AddsAll ready sender earlier statements after
        ((standard.runScript ready text sender).run earlier).trace added := by
  intro ready
  have resolves : world.StillResolves ready := ⟨fun _ found => found, fun _ found => found⟩
  have refusesNothing : ready.RefusesNothing :=
    ⟨writable, ⟨invoker, rfl, carriesOut⟩, ⟨verifier, rfl, accepts⟩⟩
  have checkedAgain : ∀ statement ∈ statements, ∃ found,
      standard.bindStatement ready statement = .ok found :=
    fun statement member => exists_bindStatement resolves (checked statement member)
  obtain ⟨after, succeeds, -⟩ :=
    (ends_processAll_of_checked refusesNothing direct checkedAgain sender earlier).exists_ok
  obtain ⟨added, adds⟩ := processAll_addsAll standard_hasNoDelegates succeeds
  simp only [runScript, parsed]
  exact ⟨after, added, succeeds, adds⟩

/-- A world with a registered oracle and nobody to ask. -/
def checkedWorld : World where
  network := "mainnet"
  contracts := [("PriceOracle", ⟨"PriceOracle", "Standard", "0x9", none⟩)]

/-- A script that replaces the oracle, calls it and has it verified. -/
def checkedScript : String :=
  "PriceOracle Set New 0x7\nPriceOracle SetPrice 0x1 1.5\nPriceOracle Verify key"

/-- The statements of the script. -/
def checkedStatements : List Statement :=
  [⟨[.bare "PriceOracle", .bare "Set", .bare "New", .bare "0x7"], some 1⟩,
    ⟨[.bare "PriceOracle", .bare "SetPrice", .bare "0x1", .bare "1.5"], some 2⟩,
    ⟨[.bare "PriceOracle", .bare "Verify", .bare "key"], some 3⟩]

/-- An invoker that carries out every call. -/
def willingInvoker : Invoker := ⟨fun _ _ _ _ => .ok { success := true }⟩

/-- A verifier that accepts every contract. -/
def willingVerifier : Verifier := ⟨fun _ _ _ => .ok ()⟩

/-- The two statements that mutate add an action each, the verification none. -/
theorem runScript_of_checked_replaced :
    let ready : World :=
      { checkedWorld with invoker := some willingInvoker, verifier := some willingVerifier }
    ∃ after added, ((standard.runScript ready checkedScript none).run []).result = .ok after ∧
      standard.AddsAll ready none [] checkedStatements after
        ((standard.runScript ready checkedScript none).run []).trace added ∧
      added.map List.length = [1, 1, 0] := by
  intro ready
  have direct : ∀ statement ∈ checkedStatements, ∀ rest,
      standard.named? statement ≠ some (Core.fromCommand, rest) := by
    have other : ∀ {statement found : Statement} {command : Command},
        standard.named? statement = some (command, found) → command.name ≠ "From" →
          ∀ rest, standard.named? statement ≠ some (Core.fromCommand, rest) := by
      intro statement found command named differs rest isFrom
      obtain ⟨rfl, -⟩ := Prod.mk.inj (Option.some.inj (named.symm.trans isFrom))
      exact differs rfl
    exact List.forall_mem_cons.mpr ⟨other rfl (by decide), List.forall_mem_cons.mpr
      ⟨other rfl (by decide), List.forall_mem_singleton.mpr (other rfl (by decide))⟩⟩
  have checked : ∀ statement ∈ checkedStatements, ∃ found,
      standard.bindStatement checkedWorld statement = .ok found := by
    refine List.forall_mem_cons.mpr ⟨⟨_, rfl⟩, List.forall_mem_cons.mpr ⟨⟨_, rfl⟩,
      List.forall_mem_singleton.mpr ⟨_, rfl⟩⟩⟩
  obtain ⟨after, added, succeeds, adds⟩ := runScript_of_checked checkedWorld rfl checkedScript
    checkedStatements rfl direct checked willingInvoker (fun _ _ _ _ => ⟨_, rfl, rfl⟩)
    willingVerifier (fun _ _ _ => rfl) none []
  refine ⟨after, added, succeeds, adds, ?_⟩
  have sets : standard.mutates ⟨[.bare "PriceOracle", .bare "Set", .bare "New", .bare "0x7"],
      some 1⟩ = true := by
    rw [mutates, innermost?_of_direct rfl (by rintro _ ⟨⟩)]
    rfl
  have prices : standard.mutates ⟨[.bare "PriceOracle", .bare "SetPrice", .bare "0x1", .bare "1.5"],
      some 2⟩ = true := by
    rw [mutates, innermost?_of_direct rfl (by rintro _ ⟨⟩)]
    rfl
  have verifies : standard.mutates ⟨[.bare "PriceOracle", .bare "Verify", .bare "key"], some 3⟩ =
      false := by
    rw [mutates, innermost?_of_direct rfl (by rintro _ ⟨⟩)]
    rfl
  simp only [adds.counts, checkedStatements, List.map_cons, List.map_nil, sets, prices, verifies]
  rfl

end Engine
end Playbook
