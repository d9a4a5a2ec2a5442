import Playbook.Proofs.Command.Perform
import Playbook.Proofs.Engine.Dispatch
import Playbook.Proofs.Vocabulary.PriceOracle

/-! # The action log

A mutating command continues the log of actions by one action and a view leaves the world as it is,
whatever their handlers do: the one new action is checked, and the world of a view is not taken from
its handler. So a run continues the log by one action for each of its mutating statements.
-/

namespace Playbook

open Engine

/-! ### One statement -/

/-- Debug messages are not printed unless the printer is verbose. -/
theorem Printer.log_debug_of_terse {printer : Printer} (terse : printer.verbose = false)
    (message : String) : printer.log message .debug = [] := by
  simp [log, terse]

namespace Engine

/-- Whether the command that acts in the end is a mutating one. -/
def mutates (engine : Engine) (statement : Statement) : Bool :=
  (engine.innermost? statement).any (·.kind = .mutating)

/-- Whatever the mutating handlers of the subsystems do, they print nothing and keep the printer. -/
def MutatesQuietly (engine : Engine) : Prop :=
  ∀ subsystem ∈ engine.registry.entries, ∀ command ∈ subsystem.commands,
    ∀ play, command.handler = .mutating play → ∀ world sender bound earlier,
      printedLines ((play world sender bound).run earlier).trace = [] ∧
        ∀ after, ((play world sender bound).run earlier).result = .ok (.world after) →
          after.printer = world.printer

/-- What a statement that succeeds adds to the log: one action if it mutates, which is then all that
a quiet handler leaves to be printed. -/
structure Adds (engine : Engine) (world : World) (statement : Statement) (after : World)
    (trace : List Effect) (added : List Action) : Prop where
  log : after.actions = world.actions ++ added
  count : added.length = if engine.mutates statement then 1 else 0
  quiet : engine.MutatesQuietly → engine.mutates statement → world.printer.verbose = false →
    printedLines trace = added.map Printer.action ∧ after.printer = world.printer

variable {engine : Engine} {world after : World} {earlier : List Request} {sender : Option String}
  {statement : Statement} {observation : Observation World}

/-- A statement that succeeds adds the actions of the commands that it reaches. -/
theorem RunsTo.adds (runs : engine.RunsTo world earlier statement sender observation)
    (plain : engine.HasNoDelegates) (succeeds : observation.result = .ok after) :
    ∃ added, engine.Adds world statement after observation.trace added := by
  induction runs with
  | refused => cases succeeds
  | @acts statement rest sender command bound notes named binds direct redirect =>
      have innermost := innermost?_of_direct named direct
      have performed := Observation.within_eq_ok_iff.mp succeeds
      rcases plain.handler named direct with
        ⟨play, mutating, subsystem, registered, member⟩ | ⟨play, view⟩
      · obtain ⟨returns, action, log, trace⟩ := Command.perform_mutating mutating performed
        have isMutating : engine.mutates statement := by
          simp [mutates, innermost, Command.kind, mutating, Handler.kind]
        refine ⟨[action], log, by simp [isMutating], ?_⟩
        intro quietly _ terse
        obtain ⟨silent, keeps⟩ := quietly subsystem registered command member play mutating
          world sender bound earlier
        refine ⟨?_, keeps after returns⟩
        have handlerLines : printedLines
            ((command.perform world sender bound redirect).observe earlier).trace =
              [Printer.action action] := by
          rw [trace, printedLines_append, silent]
          rfl
        rw [Observation.within_trace, printedLines_append, handlerLines,
          Printer.log_debug_of_terse terse]
        rfl
      · obtain rfl := Command.perform_view view performed
        have notMutating : engine.mutates statement = false := by
          simp [mutates, innermost, Command.kind, view, Handler.kind]
        exact ⟨[], by simp, by simp [notMutating], by simp [notMutating]⟩
  | @redirects statement rest sender command bound account observation notes named binds redirects
      inner ih =>
      -- From adds nothing of its own: what it passes on mutates exactly if it does
      obtain ⟨added, log, count, quiet⟩ := ih (Observation.within_eq_ok_iff.mp succeeds)
      have same : engine.mutates (redirectedTo statement rest) = engine.mutates statement := by
        rw [mutates, mutates, innermost?_of_redirect named redirects]
      refine ⟨added, log, by rw [← same, count], ?_⟩
      intro quietly mutating terse
      obtain ⟨lines, keeps⟩ := quiet quietly (same ▸ mutating) terse
      refine ⟨?_, keeps⟩
      rw [Observation.within_trace, printedLines_append, lines, Printer.log_debug_of_terse terse]
      rfl

/-- The mutating handlers of the standard engine print nothing and keep the printer. -/
theorem standard_mutatesQuietly : standard.MutatesQuietly := by
  intro subsystem registered command member play mutating world sender bound earlier
  obtain rfl : subsystem = PriceOracle.subsystem := List.mem_singleton.mp registered
  have records := PriceOracle.recordsCall_of_mutating member mutating world sender bound earlier
  refine ⟨records.silent, ?_⟩
  intro after returns
  obtain ⟨_, made, _, same, keeps, _⟩ := records.succeeds _ returns
  obtain rfl := Returned.world.inj same
  exact keeps

/-! ### Scripts -/

/-- What statements that succeed add to the log, each its own part in their order: the log before
any of them runs is the one that the statements before it have made. -/
structure AddsAll (engine : Engine) (world : World)
    (sender : Option String) (earlier : List Request)
    (statements : List Statement) (after : World) (trace : List Effect)
    (added : List (List Action)) :
    Prop where
  counts : added.map List.length =
    statements.map fun statement => if engine.mutates statement then 1 else 0
  log : after.actions = world.actions ++ added.flatten
  steps : ∀ count, ∃ between,
    ((engine.processAll world sender (statements.take count)).run earlier).result = .ok between ∧
      between.actions = world.actions ++ (added.take count).flatten
  quiet : engine.MutatesQuietly → (∀ statement ∈ statements, engine.mutates statement) →
    world.printer.verbose = false → printedLines trace = added.flatten.map Printer.action

/-- Statements that succeed add their actions one after the other. -/
theorem processAll_addsAll (plain : engine.HasNoDelegates) {statements : List Statement}
    (succeeds : ((engine.processAll world sender statements).run earlier).result = .ok after) :
    ∃ added, engine.AddsAll world sender earlier statements after
      ((engine.processAll world sender statements).run earlier).trace added := by
  induction statements generalizing world earlier with
  | nil =>
      obtain rfl : world = after := Except.ok.inj succeeds
      refine ⟨[], rfl, by simp, ?_, fun _ _ _ => rfl⟩
      intro count
      exact ⟨world, by rw [List.take_nil]; rfl, by simp⟩
  | cons statement statements ih =>
      obtain ⟨next, first, rest, observed⟩ := Play.observe_bind_ok succeeds
      obtain ⟨new, log, count, quiet⟩ := (process_runsTo ..).adds plain first
      obtain ⟨added, counts, logs, steps, quiets⟩ := ih rest
      have trace : ((engine.processAll world sender (statement :: statements)).run earlier).trace =
          ((engine.process world statement sender).run earlier).trace ++
            ((engine.processAll next sender statements).run (earlier ++
              requests ((engine.process world statement sender).run earlier).trace)).trace :=
        congrArg (·.trace) observed
      refine ⟨new :: added, ?_, ?_, ?_, ?_⟩
      · rw [List.map_cons, List.map_cons, count, counts]
      · rw [logs, log, List.flatten_cons, List.append_assoc]
      · intro size
        cases size with
        | zero => exact ⟨world, rfl, by simp⟩
        | succ size =>
            obtain ⟨between, reached, partLog⟩ := steps size
            refine ⟨between, ?_, ?_⟩
            · rw [List.take_succ_cons, processAll, Play.run_bind_of_ok first]
              exact reached
            · rw [partLog, log, List.take_succ_cons, List.flatten_cons, List.append_assoc]
      · intro quietly mutate terse
        rw [List.forall_mem_cons] at mutate
        obtain ⟨lines, keeps⟩ := quiet quietly mutate.1 terse
        have others := quiets quietly mutate.2 (by rw [keeps, terse])
        rw [trace, printedLines_append, List.flatten_cons, List.map_append, ← others]
        exact congrArg (· ++ _) lines

/-- **The action log of a script.** A script that runs to its end has continued the log by one
action for each of its mutating statements and by nothing for the others, in their order, and the
log never was anything else than a part of it on the way. If all that is printed comes from the
actions of mutating statements, the lines are those of the new actions. -/
theorem runScript_addsAll (engine : Engine) (plain : engine.HasNoDelegates) (world after : World)
    (text : String) (sender : Option String) (earlier : List Request)
    (succeeds : ((engine.runScript world text sender).run earlier).result = .ok after) :
    ∃ statements added, Script.parse text = .ok statements ∧
      engine.AddsAll world sender earlier statements after
        ((engine.runScript world text sender).run earlier).trace added := by
  unfold runScript at succeeds ⊢
  cases parsed : Script.parse text with
  | error fault =>
      rw [parsed] at succeeds
      cases succeeds
  | ok statements =>
      rw [parsed] at succeeds
      obtain ⟨added, addsAll⟩ := processAll_addsAll plain succeeds
      exact ⟨statements, added, rfl, addsAll⟩

/-- Two statements that set the oracle, the first one under From. -/
theorem runScript_addsAll_setTwice :
    ∃ statements added after,
      Script.parse "From 0x2 PriceOracle Set A 0x1\nPriceOracle Set B 0x3" = .ok statements ∧
        standard.AddsAll {} none [] statements after
          ((standard.runScript {} "From 0x2 PriceOracle Set A 0x1\nPriceOracle Set B 0x3" none).run
            []).trace added ∧
        printedLines ((standard.runScript {}
          "From 0x2 PriceOracle Set A 0x1\nPriceOracle Set B 0x3" none).run []).trace =
            ["Action: Set PriceOracle (A) to address 0x1",
              "Action: Set PriceOracle (B) to address 0x3"] := by
  have parsed : Script.parse "From 0x2 PriceOracle Set A 0x1\nPriceOracle Set B 0x3" =
      .ok [⟨[.bare "From", .bare "0x2", .bare "PriceOracle", .bare "Set", .bare "A", .bare "0x1"],
          some 1⟩,
        ⟨[.bare "PriceOracle", .bare "Set", .bare "B", .bare "0x3"], some 2⟩] := by
    rfl
  have redirected : standard.process {}
      ⟨[.bare "PriceOracle", .bare "Set", .bare "A", .bare "0x1"], some 1⟩ (some "0x2") =
        .print "Action: Set PriceOracle (A) to address 0x1"
          (.done (PriceOracle.set {} "A" "0x1" none)) := by
    rw [process]
    rfl
  have first : standard.process {}
      ⟨[.bare "From", .bare "0x2", .bare "PriceOracle", .bare "Set", .bare "A", .bare "0x1"],
        some 1⟩ none =
        .print "Action: Set PriceOracle (A) to address 0x1"
          (.done (PriceOracle.set {} "A" "0x1" none)) := by
    rw [process]
    change Play.annotate _ (Returned.world <$> standard.process {}
      ⟨[.bare "PriceOracle", .bare "Set", .bare "A", .bare "0x1"], some 1⟩ (some "0x2") >>= _) = _
    rw [redirected]
    rfl
  have second : standard.process (PriceOracle.set {} "A" "0x1" none)
      ⟨[.bare "PriceOracle", .bare "Set", .bare "B", .bare "0x3"], some 2⟩ none =
        .print "Action: Set PriceOracle (B) to address 0x3"
          (.done (PriceOracle.set (PriceOracle.set {} "A" "0x1" none) "B" "0x3" none)) := by
    rw [process]
    rfl
  have succeeds : ((standard.runScript {}
      "From 0x2 PriceOracle Set A 0x1\nPriceOracle Set B 0x3" none).run []).result =
        .ok (PriceOracle.set (PriceOracle.set {} "A" "0x1" none) "B" "0x3" none) := by
    rw [runScript, parsed]
    dsimp only [processAll]
    rw [first]
    change (Play.run [] (.print _ (standard.process _ _ _ >>= _))).result = _
    rw [second]
    rfl
  obtain ⟨statements, added, parses, addsAll⟩ :=
    runScript_addsAll standard standard_hasNoDelegates {} _ _ none [] succeeds
  refine ⟨statements, added, _, parses, addsAll, ?_⟩
  have mutate : ∀ statement ∈ statements, standard.mutates statement := by
    obtain rfl := Except.ok.inj (parsed.symm.trans parses)
    refine List.forall_mem_cons.mpr ⟨?_, List.forall_mem_singleton.mpr ?_⟩
    · rw [mutates, innermost?_of_redirect rfl rfl, innermost?_of_direct rfl (by rintro _ ⟨⟩)]
      rfl
    · rw [mutates, innermost?_of_direct rfl (by rintro _ ⟨⟩)]
      rfl
  have lines := addsAll.quiet standard_mutatesQuietly mutate rfl
  have log := addsAll.log
  rw [lines, ← List.nil_append added.flatten]
  exact (congrArg (List.map Printer.action) log).symm

end Engine

end Playbook
