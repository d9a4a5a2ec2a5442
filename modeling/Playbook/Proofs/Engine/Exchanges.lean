import Playbook.Proofs.Command.Perform
import Playbook.Proofs.Engine.Dispatch
import Playbook.Proofs.Vocabulary.PriceOracle

/-! # Calls and the action log

In the standard engine a statement makes at most one call, for the account of the innermost From,
and the action of a statement that has made a call holds the receipt of that call. A call that does
not succeed ends the run. So the receipts in the log are those of the calls, in their order.
-/

namespace Playbook

open Engine

/-- What can be observed of a statement that makes at most one call, for an account: if it succeeds,
its call has, and the receipts that it adds to the log are those of its call. -/
structure CallsOnce (world : World) (account : Option String) (observation : Observation World) :
    Prop where
  once : observation.exchanges.length ≤ 1
  senders : ∀ exchange ∈ observation.exchanges, exchange.sender = world.senderOf account
  succeeds : ∀ after, observation.result = .ok after →
    after.accounts = world.accounts ∧ (∀ exchange ∈ observation.exchanges, exchange.Succeeded) ∧
      ∃ added, after.actions = world.actions ++ added ∧
        added.filterMap (·.receipt) = observation.exchanges.filterMap Exchange.receipt?

/-- Debug lines and context do not change how often a statement calls. -/
theorem CallsOnce.within {world : World} {account : Option String}
    {observation : Observation World} (calls : CallsOnce world account observation)
    (notes : Context) (lines : List String) :
    CallsOnce world account (observation.within notes lines) :=
  ⟨calls.once, calls.senders,
    fun after succeeds => calls.succeeds after (Observation.within_eq_ok_iff.mp succeeds)⟩

variable {world after : World} {earlier : List Request} {sender : Option String} {command : Command}
  {bound : Bound} {redirect : Option String → Play Returned}

/-! ### One command -/

/-- A mutating command calls at most once if its handler records its call. -/
theorem callsOnce_perform_mutating {play : World → Option String → Bound → Play Returned}
    (mutating : command.handler = .mutating play)
    (records : RecordsCall world sender ((play world sender bound).observe earlier)) :
    CallsOnce world sender ((command.perform world sender bound redirect).observe earlier) := by
  have sameCalls : ((command.perform world sender bound redirect).observe earlier).exchanges =
      ((play world sender bound).observe earlier).exchanges :=
    Command.handle_of_mutating mutating ▸ Command.exchanges_perform ..
  refine ⟨?_, ?_, ?_⟩
  · rw [sameCalls]
    exact records.once
  · rw [sameCalls]
    exact records.senders
  · intro after succeeds
    rw [sameCalls]
    obtain ⟨returns, _⟩ := Command.perform_mutating mutating succeeds
    obtain ⟨succeeded, made, action, same, _, accounts, log, receipt⟩ := records.succeeds _ returns
    obtain rfl := Returned.world.inj same
    refine ⟨accounts, succeeded, [action], log, ?_⟩
    rw [← receipt, List.filterMap_cons]
    cases action.receipt <;> rfl

/-- A view that makes no call records none. -/
theorem callsOnce_perform_view {play : World → Bound → Play Returned}
    (view : command.handler = .view play)
    (noCalls : (play world.asReadOnly bound).exchanges earlier = []) :
    CallsOnce world sender ((command.perform world sender bound redirect).observe earlier) := by
  have sameCalls : ((command.perform world sender bound redirect).observe earlier).exchanges = [] :=
    (Command.exchanges_perform ..).trans (Command.handle_of_view view ▸ noCalls)
  refine ⟨?_, ?_, ?_⟩
  · rw [sameCalls]
    exact Nat.zero_le 1
  · rw [sameCalls]
    exact List.forall_mem_nil _
  · intro after succeeds
    rw [sameCalls]
    obtain rfl := Command.perform_view view succeeds
    exact ⟨rfl, List.forall_mem_nil _, [], (List.append_nil _).symm, rfl⟩

/-! ### One statement -/

namespace Engine

/-- The account for which the command of a statement acts in the end: that of the innermost From
around it, or the sender where there is no From. -/
def actingFor (engine : Engine) (world : World) (statement : Statement) (sender : Option String) :
    Option String :=
  match _named : engine.named? statement with
  | none => sender
  | some (command, rest) =>
    match command.handler, Coerce.address world rest.items.tail.head? with
    | .redirect _, .ok (.value (.address account)) =>
      engine.actingFor world (redirectedTo statement rest) (some account)
    | _, _ => sender
termination_by Event.sizeOfItems statement.items
decreasing_by exact size_redirectedTo_lt _named

variable {engine : Engine} {statement rest : Statement} {observation : Observation World}

/-- A statement that is not redirected acts for its sender. -/
theorem actingFor_of_direct (named : engine.named? statement = some (command, rest))
    (direct : ∀ account, command.handler ≠ .redirect account) (world : World)
    (sender : Option String) : engine.actingFor world statement sender = sender := by
  rw [actingFor]
  split
  · rfl
  next found found_named =>
      obtain ⟨rfl, rfl⟩ : _ = _ ∧ _ = _ := by simpa [named] using found_named
      split
      next account _ redirects _ => exact absurd redirects (direct _)
      · rfl

/-- A statement that is redirected acts for whom the statement after From acts for, sent by the
account. -/
theorem actingFor_of_redirect {read : Bound → Option String} {account : String}
    (named : engine.named? statement = some (command, rest))
    (redirects : command.handler = .redirect read)
    (reads : Coerce.address world rest.items.tail.head? = .ok (.value (.address account)))
    (sender : Option String) :
    engine.actingFor world statement sender =
      engine.actingFor world (redirectedTo statement rest) (some account) := by
  rw [actingFor]
  split
  next unnamed =>
      rw [named] at unnamed
      cases unnamed
  next found found_named =>
      obtain ⟨rfl, rfl⟩ : _ = _ ∧ _ = _ := by simpa [named] using found_named
      rw [redirects, reads]

/-- A command of the standard engine that acts makes at most one call, for its sender. -/
theorem standard_callsOnce_perform (named : standard.named? statement = some (command, rest))
    (direct : ∀ account, command.handler ≠ .redirect account) :
    CallsOnce world sender ((command.perform world sender bound redirect).observe earlier) := by
  have oracle {subsystem : Subsystem} (registered : subsystem ∈ standard.registry.entries)
      (member : command ∈ subsystem.commands) : command ∈ PriceOracle.commands := by
    obtain rfl : subsystem = PriceOracle.subsystem := List.mem_singleton.mp registered
    exact member
  rcases standard_hasNoDelegates.handler named direct with
    ⟨play, mutating, subsystem, registered, member⟩ | ⟨play, view⟩
  · have records :=
      PriceOracle.recordsCall_of_mutating (oracle registered member) mutating world sender
      bound earlier
    exact callsOnce_perform_mutating mutating records
  · refine callsOnce_perform_view view ?_
    rcases mem_of_named? named with core | ⟨subsystem, registered, member⟩
    · exact Core.exchanges_of_view core view world.asReadOnly bound earlier
    · exact PriceOracle.exchanges_of_view (oracle registered member) view world.asReadOnly bound
        earlier

/-- A statement of the standard engine makes at most one call, for the account of the innermost
From. -/
theorem RunsTo.callsOnce (runs : standard.RunsTo world earlier statement sender observation) :
    CallsOnce world (standard.actingFor world statement sender) observation := by
  induction runs with
  | refused failure debug =>
      exact ⟨Nat.zero_le 1, List.forall_mem_nil _, fun after succeeds => nomatch succeeds⟩
  | acts notes named binds direct redirect =>
      rw [actingFor_of_direct named direct]
      exact (standard_callsOnce_perform named direct).within notes _
  | redirects notes named binds redirects inner ih =>
      obtain rfl := standard_redirect named redirects
      obtain rfl := Handler.redirect.inj redirects
      obtain ⟨account, reads, isBound⟩ := Core.account_of_bind binds
      rw [actingFor_of_redirect named redirects reads]
      dsimp only at ih
      rw [isBound] at ih
      exact ih.within notes _

/-! ### Scripts -/

/-- A statement that was run, with the world before it and what was observed of it. -/
structure Step where
  statement : Statement
  world : World
  observation : Observation World

/-- The statements of a run, up to its end or to the one that fails. -/
def steps (engine : Engine) (sender : Option String) (world : World) (earlier : List Request) :
    List Statement → List Step
  | [] => []
  | statement :: statements =>
    let observation := (engine.process world statement sender).observe earlier
    ⟨statement, world, observation⟩ ::
      match observation.result with
      | .error _ => []
      | .ok next => engine.steps sender next (earlier ++ requests observation.trace) statements

/-- The steps of a run whose first statement succeeds. -/
theorem steps_cons {engine : Engine} {world next : World} {earlier : List Request}
    {sender : Option String} {statement : Statement} {statements : List Statement}
    (succeeds : ((engine.process world statement sender).run earlier).result = .ok next) :
    engine.steps sender world earlier (statement :: statements) =
      ⟨statement, world, (engine.process world statement sender).observe earlier⟩ ::
        engine.steps sender next
          (earlier ++ requests ((engine.process world statement sender).run earlier).trace)
          statements := by
  have observed : ((engine.process world statement sender).observe earlier).result = .ok next :=
    succeeds
  rw [steps]
  simp only [observed]
  rfl

/-- The calls of steps, in their order. -/
def exchangesOf (steps : List Step) : List Exchange := steps.flatMap (·.observation.exchanges)

/-- How the statements, the calls and the log of a run belong together. -/
structure CallsMatchLog (world : World) (sender : Option String) (statements : List Statement)
    (steps : List Step) (observation : Observation World) : Prop where
  /-- The steps run the first statements of the script, in its order. -/
  ran : steps.map (·.statement) <+: statements
  /-- All that the run has done was done in one of its steps. -/
  trace : observation.trace = steps.flatMap (·.observation.trace)
  exchanges : observation.exchanges = exchangesOf steps
  once : ∀ step ∈ steps, step.observation.exchanges.length ≤ 1
  senders : ∀ step ∈ steps, ∀ exchange ∈ step.observation.exchanges,
    exchange.sender = world.senderOf (standard.actingFor step.world step.statement sender)
  /-- The log before a step holds the receipts of the calls before it, and no others. -/
  recorded : ∀ before step later, steps = before ++ step :: later →
    ∃ added, step.world.actions = world.actions ++ added ∧
      added.filterMap (·.receipt) = (exchangesOf before).filterMap Exchange.receipt?
  /-- In a run that succeeds all calls have, and the log holds their receipts. -/
  succeeds : ∀ after, observation.result = .ok after →
    steps.map (·.statement) = statements ∧
      (∀ exchange ∈ observation.exchanges, exchange.Succeeded) ∧
      ∃ added, after.actions = world.actions ++ added ∧
        added.filterMap (·.receipt) = observation.exchanges.filterMap Exchange.receipt?
  /-- In a run that fails, all calls before the failing step have succeeded. -/
  fails : ∀ failure, observation.result = .error failure →
    ∃ before last, steps = before ++ [last] ∧ last.observation.result = .error failure ∧
      ∀ exchange ∈ exchangesOf before, exchange.Succeeded

/-- The account that sends a call depends on the accounts of the world only. -/
theorem senderOf_congr {world other : World} (same : other.accounts = world.accounts)
    (named : Option String) : other.senderOf named = world.senderOf named := by
  unfold World.senderOf Records.defaultSender
  rw [same]

/-- A run that fails in its first step. -/
theorem CallsMatchLog.failed {statements : List Statement} {failure : Failure} {trace : List Effect}
    {exchanges : List Exchange}
    (calls : CallsOnce world (standard.actingFor world statement sender)
      ⟨⟨.error failure, trace⟩, exchanges⟩) :
    CallsMatchLog world sender (statement :: statements)
      [⟨statement, world, ⟨⟨.error failure, trace⟩, exchanges⟩⟩]
      ⟨⟨.error failure, trace⟩, exchanges⟩ where
  ran := ⟨statements, rfl⟩
  trace := by simp
  exchanges := by simp [exchangesOf]
  once := List.forall_mem_singleton.mpr calls.once
  senders := List.forall_mem_singleton.mpr calls.senders
  recorded := by
    intro before step later split
    cases before with
    | nil =>
        obtain ⟨rfl, _⟩ := List.cons.inj split
        exact ⟨[], (List.append_nil _).symm, rfl⟩
    | cons first before =>
        obtain ⟨_, others⟩ := List.cons.inj split
        cases before <;> cases others
  succeeds := by
    intro after succeeds
    cases succeeds
  fails := by
    intro other same
    exact ⟨[], _, rfl, same, List.forall_mem_nil _⟩

/-- A run that goes on after its first step. -/
theorem CallsMatchLog.next {statements : List Statement} {steps : List Step} {next : World}
    {first rest : Observation World}
    (calls : CallsOnce world (standard.actingFor world statement sender) first)
    (succeeds : first.result = .ok next)
    (others : CallsMatchLog next sender statements steps rest) :
    CallsMatchLog world sender (statement :: statements) (⟨statement, world, first⟩ :: steps)
      (rest.after first.trace first.exchanges) := by
  obtain ⟨accounts, succeeded, added, log, receipts⟩ := calls.succeeds next succeeds
  constructor
  · exact List.cons_prefix_cons.mpr ⟨rfl, others.ran⟩
  · rw [List.flatMap_cons, ← others.trace]
    rfl
  · rw [exchangesOf, List.flatMap_cons, ← exchangesOf, ← others.exchanges]
    rfl
  · exact List.forall_mem_cons.mpr ⟨calls.once, others.once⟩
  · refine List.forall_mem_cons.mpr ⟨calls.senders, ?_⟩
    intro step member exchange called
    rw [others.senders step member exchange called, senderOf_congr accounts]
  · intro before step later split
    cases before with
    | nil =>
        obtain ⟨rfl, _⟩ := List.cons.inj split
        exact ⟨[], (List.append_nil _).symm, rfl⟩
    | cons earliest before =>
        obtain ⟨rfl, rest⟩ := List.cons.inj split
        obtain ⟨more, logs, moreReceipts⟩ := others.recorded before step later rest
        refine ⟨added ++ more, by rw [logs, log, List.append_assoc], ?_⟩
        rw [List.filterMap_append, receipts, moreReceipts, ← List.filterMap_append]
        rfl
  · intro after ends
    obtain ⟨ran, allSucceeded, more, logs, moreReceipts⟩ := others.succeeds after ends
    refine ⟨congrArg (statement :: ·) ran, ?_, added ++ more, ?_, ?_⟩
    · exact List.forall_mem_append.mpr ⟨succeeded, allSucceeded⟩
    · rw [logs, log, List.append_assoc]
    · rw [List.filterMap_append, receipts, moreReceipts, ← List.filterMap_append]
      rfl
  · intro failure ends
    obtain ⟨before, last, split, lastFails, beforeSucceeded⟩ := others.fails failure ends
    refine ⟨⟨statement, world, first⟩ :: before, last, congrArg (_ :: ·) split, lastFails, ?_⟩
    rw [exchangesOf, List.flatMap_cons]
    exact List.forall_mem_append.mpr ⟨succeeded, beforeSucceeded⟩

/-- The calls of statements match what they add to the log. -/
theorem processAll_callsMatchLog (world : World) (sender : Option String) (earlier : List Request)
    (statements : List Statement) :
    CallsMatchLog world sender statements (standard.steps sender world earlier statements)
      ((standard.processAll world sender statements).observe earlier) := by
  induction statements generalizing world earlier with
  | nil =>
      refine ⟨List.nil_prefix, rfl, rfl, List.forall_mem_nil _, List.forall_mem_nil _, ?_, ?_, ?_⟩
      · intro before step later split
        cases before <;> cases split
      · intro after ends
        obtain rfl : world = after := Except.ok.inj ends
        exact ⟨rfl, List.forall_mem_nil _, [], (List.append_nil _).symm, rfl⟩
      · intro failure ends
        cases ends
  | cons statement statements ih =>
      have calls := (process_runsTo standard world earlier statement sender).callsOnce
      rw [processAll, steps, Play.observe_bind, Observation.andThen]
      generalize (standard.process world statement sender).observe earlier = first at calls ⊢
      obtain ⟨⟨_ | next, trace⟩, exchanges⟩ := first
      · exact .failed calls
      · exact .next calls rfl (ih next _)

/-- A call that does not succeed is the last of its run, and the run fails in the step that made it.
-/
theorem CallsMatchLog.stops {statements : List Statement} {steps : List Step}
    {observation : Observation World}
    (calls : CallsMatchLog world sender statements steps observation)
    {before later : List Exchange} {exchange : Exchange}
    (split : observation.exchanges = before ++ exchange :: later)
    (unsuccessful : ¬ exchange.Succeeded) :
    later = [] ∧ ∃ failing failure, steps.getLast? = some failing ∧
      exchange ∈ failing.observation.exchanges ∧ failing.observation.result = .error failure ∧
      observation.result = .error failure := by
  have member : exchange ∈ observation.exchanges := by
    rw [split]
    exact List.mem_append_right before List.mem_cons_self
  cases result : observation.result with
  | ok after => exact absurd ((calls.succeeds after result).2.1 exchange member) unsuccessful
  | error failure =>
      obtain ⟨earlierSteps, failing, ended, fails, succeeded⟩ := calls.fails failure result
      have once := calls.once failing (by rw [ended]; simp)
      have parts : exchangesOf earlierSteps ++ failing.observation.exchanges =
          before ++ exchange :: later := by
        rw [← split, calls.exchanges, ended]
        simp [exchangesOf]
      have inLast : ∃ others, failing.observation.exchanges = others ++ exchange :: later := by
        rcases List.append_eq_append_iff.mp parts with ⟨more, _, inLast⟩ | ⟨more, inEarlier, inLast⟩
        · exact ⟨more, inLast⟩
        · cases more with
          | nil => exact ⟨[], inLast.symm⟩
          | cons other more =>
              obtain ⟨rfl, _⟩ := List.cons.inj inLast
              exact absurd (succeeded exchange (by simp [inEarlier])) unsuccessful
      obtain ⟨others, inLast⟩ := inLast
      have lengths : others.length + (later.length + 1) ≤ 1 := by
        rw [inLast, List.length_append, List.length_cons] at once
        exact once
      refine ⟨List.length_eq_zero_iff.mp (by omega), failing, failure, ?_, ?_, fails, rfl⟩
      · rw [ended, List.getLast?_concat]
      · rw [inLast]
        exact List.mem_append_right others List.mem_cons_self

/-- **Calls and the action log.** In every run of a script in the standard engine, whatever the
invoker answers, the calls come in the order of the statements, at most one for each, for the
account of the innermost From; the receipts in the log are those of the calls, in their order; and a
call that does not succeed is the last one and fails the run. -/
theorem runScript_callsMatchLog (world : World) (text : String) (statements : List Statement)
    (parsed : Script.parse text = .ok statements) (sender : Option String)
    (earlier : List Request) :
    let observation := (standard.runScript world text sender).observe earlier
    let steps := standard.steps sender world earlier statements
    CallsMatchLog world sender statements steps observation ∧
      (calls observation.trace =
        observation.exchanges.map fun exchange => (exchange.call, exchange.sender)) ∧
      ∀ before exchange later, observation.exchanges = before ++ exchange :: later →
        ¬ exchange.Succeeded →
          later = [] ∧ ∃ failing failure, steps.getLast? = some failing ∧
            exchange ∈ failing.observation.exchanges ∧ failing.observation.result = .error failure ∧
            observation.result = .error failure := by
  intro observation steps
  have calls : CallsMatchLog world sender statements steps observation := by
    simp only [observation, runScript, parsed]
    exact processAll_callsMatchLog world sender earlier statements
  exact ⟨calls, Play.calls_observe earlier _, fun before exchange later split unsuccessful =>
    calls.stops split unsuccessful⟩

/-- A world whose invoker carries out the first call and fails from then on. -/
def oneCallWorld : World where
  accounts := [("Root", "0x5"), ("Geoff", "0x6")]
  contracts := [("PriceOracle", ⟨"PriceOracle", "Standard", "0x9", none⟩)]
  invoker := some ⟨fun _ earlier _ _ =>
    if earlier.isEmpty then .ok { success := true } else .error (.crash "RuntimeError" "down")⟩

/-- Two calls, the second one for Geoff and without success. -/
theorem runScript_callsMatchLog_oneCall :
    ∃ statements observation,
      Script.parse "PriceOracle SetRefAddress 0x1\nFrom Geoff PriceOracle SetRefAddress 0x2" =
          .ok statements ∧
        (standard.runScript oneCallWorld
          "PriceOracle SetRefAddress 0x1\nFrom Geoff PriceOracle SetRefAddress 0x2"
            none).observe [] = observation ∧
        CallsMatchLog oneCallWorld none statements (standard.steps none oneCallWorld [] statements)
          observation ∧
        observation.exchanges.map (·.sender) = [some "0x5", some "0x6"] ∧
        observation.exchanges.map (·.receipt?) = [some { success := true }, none] := by
  have parsed : Script.parse
      "PriceOracle SetRefAddress 0x1\nFrom Geoff PriceOracle SetRefAddress 0x2" =
        .ok [⟨[.bare "PriceOracle", .bare "SetRefAddress", .bare "0x1"], some 1⟩,
          ⟨[.bare "From", .bare "Geoff", .bare "PriceOracle", .bare "SetRefAddress", .bare "0x2"],
            some 2⟩] := by
    rfl
  obtain ⟨request, others, call, first⟩ : ∃ request others call, (standard.process oneCallWorld
      ⟨[.bare "PriceOracle", .bare "SetRefAddress", .bare "0x1"], some 1⟩ none).observe [] =
        ⟨⟨.ok (oneCallWorld.addAction "Set price oracle ref address to 0x1"
            (some { success := true })), .asked request :: others⟩,
          [⟨call, some "0x5", .ok { success := true }⟩]⟩ := by
    rw [process]
    exact ⟨_, _, _, rfl⟩
  obtain ⟨failure, trace, other, redirected⟩ : ∃ failure trace other, (standard.process
      (oneCallWorld.addAction "Set price oracle ref address to 0x1" (some { success := true }))
      ⟨[.bare "PriceOracle", .bare "SetRefAddress", .bare "0x2"], some 2⟩ (some "0x6")).observe
        ([] ++ requests (.asked request :: others)) =
          ⟨⟨.error failure, trace⟩,
            [⟨other, some "0x6", .error (.crash "RuntimeError" "down")⟩]⟩ := by
    rw [process]
    exact ⟨_, _, _, rfl⟩
  obtain ⟨notes, passedOn⟩ := @observe_process_redirect standard
    ⟨[.bare "From", .bare "Geoff", .bare "PriceOracle", .bare "SetRefAddress", .bare "0x2"], some 2⟩
    _ _
    (oneCallWorld.addAction "Set price oracle ref address to 0x1" (some { success := true })) _ _
    rfl rfl rfl ([] ++ requests (.asked request :: others)) none
  have second := passedOn.trans (congrArg (Observation.within notes _) redirected)
  have observed : ∃ failure trace, (standard.runScript oneCallWorld
      "PriceOracle SetRefAddress 0x1\nFrom Geoff PriceOracle SetRefAddress 0x2" none).observe [] =
        ⟨⟨.error failure, trace⟩, [⟨call, some "0x5", .ok { success := true }⟩,
          ⟨other, some "0x6", .error (.crash "RuntimeError" "down")⟩]⟩ := by
    rw [runScript, parsed]
    dsimp only [processAll]
    rw [Play.observe_bind, first, Observation.andThen_ok, Play.observe_bind, second]
    exact ⟨_, _, rfl⟩
  obtain ⟨failure, trace, observed⟩ := observed
  refine ⟨_, _, parsed, observed, ?_, rfl, rfl⟩
  rw [← observed]
  exact (runScript_callsMatchLog oneCallWorld _ _ parsed none []).1

end Engine

end Playbook
