import Playbook.Proofs.Engine.ActionLog
import Playbook.Proofs.Engine.Views

/-! # Runs that fail

A run that fails hands over no world, so whoever has a script run goes on with the world from before
it. Whoever has the statements run one by one goes on with the world that the last successful one
has made. The two worlds differ as soon as one of the statements before the failure has mutated: its
action, with the receipt of a call that has been made, is in the second world only.
-/

namespace Playbook

/-- The world that the caller of a run goes on with. -/
def Outcome.worldFrom (before : World) (outcome : Outcome World) : World :=
  match outcome.result with
  | .ok after => after
  | .error _ => before

namespace Engine

variable {engine : Engine} {world after : World} {earlier : List Request} {sender : Option String}
  {statement : Statement} {statements : List Statement} {observation : Observation World}

/-- The world of a caller that has statements run one by one, up to the first one that fails. -/
def feed (engine : Engine) (sender : Option String) (world : World) (earlier : List Request) :
    List Statement → World
  | [] => world
  | statement :: statements =>
    let outcome := (engine.process world statement sender).run earlier
    match outcome.result with
    | .ok next => engine.feed sender next (earlier ++ requests outcome.trace) statements
    | .error _ => world

/-- How a run breaks off: what comes before the failing statement has succeeded and made the world
in which that statement fails, and nothing comes after. -/
structure BreaksOff (engine : Engine) (world : World)
    (sender : Option String) (earlier : List Request)
    (done : List Statement) (statement : Statement) (failure : Failure) (trace : List Effect)
    (reached : World) : Prop where
  reaches : ((engine.processAll world sender done).run earlier).result = .ok reached
  fails : ((engine.process reached statement sender).run
    (earlier ++ requests ((engine.processAll world sender done).run earlier).trace)).result =
      .error failure
  effects : trace = ((engine.processAll world sender done).run earlier).trace ++
    ((engine.process reached statement sender).run
      (earlier ++ requests ((engine.processAll world sender done).run earlier).trace)).trace

/-- A run that breaks off after more statements breaks off after the others. -/
theorem BreaksOff.next {done : List Statement} {first : Statement} {failure : Failure}
    {trace : List Effect} {next reached : World}
    (succeeds : ((engine.process world first sender).run earlier).result = .ok next)
    (breaks : engine.BreaksOff next sender
      (earlier ++ requests ((engine.process world first sender).run earlier).trace) done statement
      failure trace reached) :
    engine.BreaksOff world sender earlier (first :: done) statement failure
      (((engine.process world first sender).run earlier).trace ++ trace) reached := by
  obtain ⟨reaches, fails, effects⟩ := breaks
  rw [List.append_assoc, ← requests_append] at fails effects
  refine ⟨?_, ?_, ?_⟩
  · rw [run_processAll_cons succeeds]
    exact reaches
  · rw [run_processAll_cons succeeds]
    exact fails
  · rw [run_processAll_cons succeeds, effects, List.append_assoc]

/-- The caller of statements that all succeed has the world that they make. -/
theorem feed_of_ok (succeeds : ((engine.processAll world sender statements).run earlier).result =
    .ok after) : engine.feed sender world earlier statements = after := by
  induction statements generalizing world earlier with
  | nil => exact Except.ok.inj succeeds
  | cons statement statements ih =>
      obtain ⟨next, first, rest, -⟩ := Play.observe_bind_ok succeeds
      rw [feed]
      simp only [first]
      exact ih rest

/-- The caller of statements of which one fails has the world in which it fails. -/
theorem feed_of_error {failure : Failure}
    (fails : ((engine.processAll world sender statements).run earlier).result = .error failure) :
    ∃ done statement rest, statements = done ++ statement :: rest ∧
      engine.BreaksOff world sender earlier done statement failure
        ((engine.processAll world sender statements).run earlier).trace
        (engine.feed sender world earlier statements) := by
  induction statements generalizing world earlier with
  | nil => cases fails
  | cons statement statements ih =>
      rw [feed]
      cases first : ((engine.process world statement sender).run earlier).result with
      | error other =>
          have outcome : (engine.processAll world sender (statement :: statements)).run earlier =
              ⟨.error other, ((engine.process world statement sender).run earlier).trace⟩ := by
            rw [processAll, ← Play.observe_toOutcome, Play.observe_bind, Observation.andThen,
              Play.observe_toOutcome, first]
          -- nothing is done before the first statement, so it meets the requests made earlier
          have noRequest : earlier ++ requests
              ((engine.processAll world sender []).run earlier).trace = earlier :=
            List.append_nil earlier
          rw [outcome] at fails ⊢
          refine ⟨[], statement, statements, rfl, rfl, ?_, ?_⟩
          · rw [noRequest]
            exact first.trans fails
          · rw [noRequest]
            rfl
      | ok next =>
          rw [run_processAll_cons first] at fails ⊢
          obtain ⟨done, failing, rest, split, breaks⟩ := ih fails
          refine ⟨statement :: done, failing, rest, congrArg (statement :: ·) split, ?_⟩
          exact breaks.next first

/-! ### What is lost -/

/-- As many actions are added as there are mutating statements. -/
theorem AddsAll.length_flatten {trace : List Effect} {added : List (List Action)}
    (adds : engine.AddsAll world sender earlier statements after trace added) :
    added.flatten.length = statements.countP engine.mutates := by
  rw [List.length_flatten, adds.counts]
  clear adds
  induction statements with
  | nil => rfl
  | cons statement statements ih =>
      rw [List.map_cons, List.sum_cons, ih, List.countP_cons, Nat.add_comm]

/-- A statement that does not mutate leaves the world as it was. -/
theorem RunsTo.world_of_not_mutates (plain : engine.HasNoDelegates)
    (notMutating : engine.mutates statement = false)
    (runs : engine.RunsTo world earlier statement sender observation)
    (succeeds : observation.result = .ok after) : after = world := by
  induction runs with
  | refused => cases succeeds
  | acts notes named binds direct redirect =>
      rcases plain.handler named direct with ⟨play, mutating, -⟩ | ⟨play, view⟩
      · simp [mutates, innermost?_of_direct named direct, Command.kind, mutating, Handler.kind]
          at notMutating
      · exact Command.perform_view view (Observation.within_eq_ok_iff.mp succeeds)
  | redirects notes named binds redirects inner ih =>
      rw [mutates, innermost?_of_redirect named redirects] at notMutating
      exact ih notMutating (Observation.within_eq_ok_iff.mp succeeds)

/-- Statements that do not mutate leave the world as it was. -/
theorem processAll_world_of_not_mutates (plain : engine.HasNoDelegates)
    (notMutating : ∀ statement ∈ statements, engine.mutates statement = false)
    (succeeds : ((engine.processAll world sender statements).run earlier).result = .ok after) :
    after = world := by
  induction statements generalizing world earlier with
  | nil => exact (Except.ok.inj succeeds).symm
  | cons statement statements ih =>
      obtain ⟨next, first, rest, -⟩ := Play.observe_bind_ok succeeds
      obtain ⟨here, others⟩ := List.forall_mem_cons.mp notMutating
      obtain rfl : next = world := (process_runsTo ..).world_of_not_mutates plain here first
      exact ih others rest

/-- The statements that have succeeded leave the world as it was only if none of them mutates. -/
theorem eq_reached_iff (plain : engine.HasNoDelegates)
    (succeeds : ((engine.processAll world sender statements).run earlier).result = .ok after) :
    (∃ lost, after.actions = world.actions ++ lost ∧
      lost.length = statements.countP engine.mutates) ∧
      (world = after ↔ ∀ statement ∈ statements, ¬ engine.mutates statement) := by
  obtain ⟨added, adds⟩ := processAll_addsAll plain succeeds
  refine ⟨⟨added.flatten, adds.log, adds.length_flatten⟩, ?_, ?_⟩
  · rintro rfl
    have nothing : added.flatten = [] := List.self_eq_append_right.mp adds.log
    rw [← List.countP_eq_zero, ← adds.length_flatten, nothing, List.length_nil]
  · intro views
    exact (processAll_world_of_not_mutates plain
      (fun statement member => Bool.eq_false_iff.mpr (views statement member)) succeeds).symm

/-- **Failing runs.** A script that succeeds leaves its caller with the world that its statements
make one by one. A script that fails leaves its caller with the world from before it, though the
statements before the failing one have had their effects. What they have added to the log is lost,
so the caller has the world that those statements have made only if none of them mutates. -/
theorem worldFrom_runScript (engine : Engine) (world : World) (text : String)
    (statements : List Statement) (parsed : Script.parse text = .ok statements)
    (sender : Option String) (earlier : List Request) :
    let outcome := (engine.runScript world text sender).run earlier
    let fed := engine.feed sender world earlier statements
    (∀ after, outcome.result = .ok after → outcome.worldFrom world = after ∧ fed = after) ∧
      ∀ failure, outcome.result = .error failure → outcome.worldFrom world = world ∧
        ∃ done statement rest, statements = done ++ statement :: rest ∧
          engine.BreaksOff world sender earlier done statement failure outcome.trace fed ∧
          (engine.HasNoDelegates →
            (∃ lost, fed.actions = world.actions ++ lost ∧
              lost.length = done.countP engine.mutates) ∧
            (outcome.worldFrom world = fed ↔ ∀ successful ∈ done,
              ¬ engine.mutates successful)) := by
  intro outcome fed
  have ran : outcome = (engine.processAll world sender statements).run earlier := by
    simp only [outcome, runScript, parsed]
  constructor
  · intro after succeeds
    refine ⟨by rw [Outcome.worldFrom, succeeds], ?_⟩
    rw [ran] at succeeds
    exact feed_of_ok succeeds
  · intro failure fails
    have keeps : outcome.worldFrom world = world := by rw [Outcome.worldFrom, fails]
    rw [ran] at fails
    obtain ⟨done, statement, rest, split, breaks⟩ := feed_of_error fails
    rw [keeps, ran]
    exact ⟨rfl, done, statement, rest, split, breaks, fun plain =>
      eq_reached_iff plain breaks.reaches⟩

/-! ### A call whose action is lost -/

/-- A script that calls the oracle and then fails. -/
def lostCall : String := "PriceOracle SetRefAddress 0x1\nBogus"

/-- The script has two statements. -/
theorem parse_lostCall :
    Script.parse lostCall = .ok [setsReference 1, ⟨[.bare "Bogus"], some 2⟩] := by
  rfl

/-- The second statement is refused. -/
theorem observe_unknown : ∃ failure, ∀ earlier,
    (standard.process setWorld ⟨[.bare "Bogus"], some 2⟩ none).observe earlier =
      ⟨⟨.error failure, []⟩, []⟩ := by
  rw [process]
  exact ⟨_, fun earlier => rfl⟩

/-- The call is made before the script fails. -/
theorem run_lostCall : ∃ failure, (standard.runScript publicWorld lostCall none).run [] =
    ⟨.error failure, [.asked (.call setCall (some "0x5")),
      .printed "Action: Set price oracle ref address to 0x1"]⟩ := by
  obtain ⟨failure, refused⟩ := observe_unknown
  refine ⟨failure, ?_⟩
  rw [runScript, parse_lostCall]
  dsimp only [processAll]
  rw [← Play.observe_toOutcome, Play.observe_bind, observe_setsReference, Observation.andThen_ok,
    Play.observe_bind, refused]
  rfl

/-- Two statements, the second of which fails after the first has called the oracle. -/
theorem worldFrom_runScript_lostCall :
    ∃ failure, Script.parse lostCall = .ok [setsReference 1, ⟨[.bare "Bogus"], some 2⟩] ∧
      ((standard.runScript publicWorld lostCall none).run []).result = .error failure ∧
      ((standard.runScript publicWorld lostCall none).run []).worldFrom publicWorld =
        publicWorld := by
  obtain ⟨failure, observed⟩ := run_lostCall
  have fails := congrArg (·.result) observed
  exact ⟨failure, parse_lostCall, fails,
    ((worldFrom_runScript standard publicWorld _ _ parse_lostCall none []).2 failure fails).1⟩

/-- The caller of the script has lost the action of a call that has been made, which is in the world
that the statements make one by one. -/
theorem worldFrom_runScript_ne_feed :
    ∃ statements, Script.parse lostCall = .ok statements ∧
      calls ((standard.runScript publicWorld lostCall none).run []).trace =
        [(setCall, some "0x5")] ∧
      (standard.feed none publicWorld [] statements).actions =
        [⟨"Set price oracle ref address to 0x1", some { success := true }⟩] ∧
      ((standard.runScript publicWorld lostCall none).run []).worldFrom publicWorld ≠
        standard.feed none publicWorld [] statements := by
  have fed : (standard.feed none publicWorld []
      [setsReference 1, ⟨[.bare "Bogus"], some 2⟩]).actions =
        [⟨"Set price oracle ref address to 0x1", some { success := true }⟩] := by
    have sets : (standard.process publicWorld (setsReference 1) none).run [] = _ :=
      congrArg (·.toOutcome) (observe_setsReference 1 [])
    obtain ⟨failure, refused⟩ := observe_unknown
    have fails : ∀ earlier, ((standard.process setWorld ⟨[.bare "Bogus"], some 2⟩ none).run
        earlier).result = .error failure := fun earlier => congrArg (·.result) (refused earlier)
    simp only [feed, sets, fails]
    rfl
  obtain ⟨failure, observed⟩ := run_lostCall
  refine ⟨_, parse_lostCall, by rw [observed]; rfl, fed, ?_⟩
  rw [observed]
  intro same
  rw [← same] at fed
  cases fed

end Engine
end Playbook
