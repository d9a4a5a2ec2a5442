import Playbook.Proofs.Engine.Acting
import Playbook.Proofs.Engine.ScriptErrors
import Playbook.Proofs.Vocabulary.Frame

/-! # The registered oracle

A run of the standard engine leaves of a world what it was, but for the log and for the contract
that has the name of the oracle. That contract is the one that was registered last, and all that is
asked for after it has been registered concerns it, until another one is.
-/

namespace Playbook.Engine

variable {world after : World} {earlier : List Request} {sender : Option String}
  {statement : Statement} {command : Command} {bound : Bound} {oracle : Contract}

/-! ### One statement -/

/-- The command that acts has all that its handler asks for, and is no From. -/
theorem standardBound_of_acting
    (acting : standard.acting? world statement = some (command, bound)) :
    StandardBound world command bound ∧ ∀ account, command.handler ≠ .redirect account := by
  obtain ⟨direct, inner, rest, named, binds⟩ := acting?_eq_some acting
  have isBound := (isStandard_of_named? named).ends_bind world rest.items.tail
  rw [binds] at isBound
  exact ⟨isBound, direct⟩

/-- The contract that a statement registers, if it is Set that acts in it. -/
def registers? (world : World) (statement : Statement) : Option Contract :=
  (standard.acting? world statement).bind fun (command, bound) =>
    PriceOracle.registers? command bound

/-- A statement that succeeds registers the oracle, and else leaves all but the log as it was. -/
theorem onlyRegisters_of_process
    (succeeds : ((standard.process world statement sender).run earlier).result = .ok after) :
    world.OnlyRegisters (registers? world statement) after := by
  unfold registers?
  cases acting : standard.acting? world statement with
  | none =>
      obtain ⟨failure, refused⟩ := process_of_not_acting acting sender earlier
      cases refused.result_of_ok succeeds
  | some acts =>
      obtain ⟨command, bound⟩ := acts
      obtain ⟨isBound, direct⟩ := standardBound_of_acting acting
      obtain ⟨account, redirect, acts⟩ := process_of_acting acting sender earlier
      exact isBound.onlyRegisters direct (acts.result_of_ok succeeds)

/-- All that a statement asks for concerns the oracle. -/
theorem concerns_of_process (registered : world.contract? PriceOracle.name = some oracle) :
    ∀ request ∈ requests ((standard.process world statement sender).run earlier).trace,
      request.Concerns oracle := by
  cases acting : standard.acting? world statement with
  | none =>
      obtain ⟨failure, refused⟩ := process_of_not_acting acting sender earlier
      rw [← Play.observe_toOutcome, refused.requests_eq]
      exact List.forall_mem_nil _
  | some acts =>
      obtain ⟨command, bound⟩ := acts
      obtain ⟨isBound, direct⟩ := standardBound_of_acting acting
      obtain ⟨account, redirect, acts⟩ := process_of_acting acting sender earlier
      rw [← Play.observe_toOutcome, acts.requests_eq]
      exact isBound.asksOnly direct registered earlier

/-- Where Address acts, it shows the address of the oracle. -/
theorem shows_of_process (registered : world.contract? PriceOracle.name = some oracle)
    (acting : standard.acting? world statement = some (PriceOracle.addressCommand, bound)) :
    ((standard.process world statement sender).observe earlier).AgreesWith world.printer
      ⟨⟨.ok world, [.printed ("Address: " ++ oracle.address)]⟩, []⟩ := by
  obtain ⟨account, redirect, acts⟩ := process_of_acting acting sender earlier
  obtain ⟨-, inner, rest, -, binds⟩ := acting?_eq_some acting
  have found := PriceOracle.contract_of_bind rfl binds
  obtain rfl := Option.some.inj (found.symm.trans registered)
  exact acts

/-! ### Runs -/

/-- The contract that a step registers, if it is Set that acts in it. -/
def Step.registers? (step : Step) : Option Contract := Engine.registers? step.world step.statement

/-- The contract that was registered last in some steps. -/
def latestOracle (steps : List Step) : Option Contract := (steps.filterMap Step.registers?).getLast?

/-- The oracle that was registered last is that of the later steps, or else of the first. -/
theorem latestOracle_cons (step : Step) (steps : List Step) :
    latestOracle (step :: steps) = (latestOracle steps).or step.registers? := by
  unfold latestOracle
  cases registered : step.registers? with
  | none => rw [List.filterMap_cons_none registered, Option.or_none]
  | some oracle =>
      rw [List.filterMap_cons_some registered, List.getLast?_cons]
      cases (steps.filterMap Step.registers?).getLast? <;> rfl

/-- A step is run in a world in which the last oracle that the steps before it have registered is
registered, and nothing else has changed but the log. -/
theorem of_steps_eq {statements : List Statement} {before later : List Step} {step : Step}
    (split : standard.steps sender world earlier statements = before ++ step :: later) :
    world.OnlyRegisters (latestOracle before) step.world ∧
      ∃ asked, step.observation =
        (standard.process step.world step.statement sender).observe asked := by
  induction statements generalizing world earlier before with
  | nil => cases before <;> cases split
  | cons statement statements ih =>
      rw [steps] at split
      cases before with
      | nil =>
          obtain ⟨rfl, -⟩ := List.cons.inj split
          exact ⟨.refl world, earlier, rfl⟩
      | cons first before =>
          obtain ⟨rfl, others⟩ := List.cons.inj split
          cases result : ((standard.process world statement sender).observe earlier).result with
          | error failure =>
              -- after a step that fails there is none
              simp only [result] at others
              cases before <;> cases others
          | ok next =>
              simp only [result] at others
              obtain ⟨registers, ran⟩ := ih others
              refine ⟨?_, ran⟩
              rw [latestOracle_cons]
              exact (onlyRegisters_of_process result).trans registers

/-- Statements change nothing but the log and the oracle that was registered last. -/
theorem onlyRegisters_of_processAll {statements : List Statement}
    (succeeds : ((standard.processAll world sender statements).run earlier).result = .ok after) :
    world.OnlyRegisters (latestOracle (standard.steps sender world earlier statements)) after := by
  induction statements generalizing world earlier with
  | nil => exact Except.ok.inj succeeds ▸ .refl world
  | cons statement statements ih =>
      obtain ⟨next, first, rest, -⟩ := Play.observe_bind_ok succeeds
      rw [steps_cons first, latestOracle_cons]
      exact (onlyRegisters_of_process first).trans (ih rest)

/-- **The last Set wins.** A run of the standard engine that succeeds has run all statements and
leaves the world as it was, but for the log and for the contract that has the name of the oracle:
other contracts are the same, their names keep their order, and the oracle is the one that the last
Set has registered, directly or under From. In every run, whatever is asked for after a Set, and the
address that is shown, are those of the contract that the latest Set before has registered, also
where the world holds contracts whose names differ from the name of the oracle in case only. -/
theorem runScript_lastSetWins (world : World) (text : String) (statements : List Statement)
    (parsed : Script.parse text = .ok statements) (sender : Option String)
    (earlier : List Request) :
    let observation := (standard.runScript world text sender).observe earlier
    let steps := standard.steps sender world earlier statements
    observation.trace = steps.flatMap (·.observation.trace) ∧
    (∀ after, observation.result = .ok after →
      steps.map (·.statement) = statements ∧
      after = { world with contracts := after.contracts, actions := after.actions } ∧
      (∀ key, key ≠ PriceOracle.name → after.contracts.get? key = world.contracts.get? key) ∧
      (after.contracts.keys = world.contracts.keys ∨
        after.contracts.keys = world.contracts.keys ++ [PriceOracle.name]) ∧
      after.contracts.get? PriceOracle.name =
        (latestOracle steps).or (world.contracts.get? PriceOracle.name)) ∧
    ∀ before step later oracle, steps = before ++ step :: later →
      latestOracle before = some oracle →
        (∀ request ∈ requests step.observation.trace, request.Concerns oracle) ∧
        ∀ bound, standard.acting? step.world step.statement =
            some (PriceOracle.addressCommand, bound) →
          step.observation.AgreesWith step.world.printer
            ⟨⟨.ok step.world, [.printed ("Address: " ++ oracle.address)]⟩, []⟩ := by
  intro observation steps
  have ran : observation = (standard.processAll world sender statements).observe earlier := by
    simp only [observation, runScript, parsed]
  have calls := processAll_callsMatchLog world sender earlier statements
  rw [← ran] at calls
  refine ⟨calls.trace, ?_, ?_⟩
  · intro after succeeds
    obtain ⟨complete, -⟩ := calls.succeeds after succeeds
    rw [ran] at succeeds
    obtain ⟨others, contracts⟩ := onlyRegisters_of_processAll succeeds
    refine ⟨complete, others, ?_⟩
    rw [contracts]
    cases latestOracle steps with
    | none => exact ⟨fun _ _ => rfl, .inl rfl, rfl⟩
    | some oracle =>
        refine ⟨fun key other => Table.get?_set_of_ne _ _ other, ?_, Table.get?_set_self ..⟩
        rw [Option.elim, Table.keys_set]
        by_cases present : PriceOracle.name ∈ world.contracts.keys
        · exact .inl (if_pos present)
        · exact .inr (if_neg present)
  · intro before step later oracle split latest
    obtain ⟨registers, asked, observed⟩ := of_steps_eq split
    rw [latest] at registers
    rw [observed]
    exact ⟨concerns_of_process registers.contract?_eq_some,
      fun bound acting => shows_of_process registers.contract?_eq_some acting⟩

/-- A world with a contract whose name differs from that of the oracle in case. -/
def crowdedWorld : World where
  accounts := [("Root", "0x5")]
  contracts := [("priceoracle", ⟨"priceoracle", "Old", "0x8", none⟩)]

/-- A statement that registers an oracle under From. -/
def setsOracle : Statement :=
  ⟨[.bare "From", .bare "Root", .bare "PriceOracle", .bare "Set", .bare "New", .bare "0x7"], some 1⟩

/-- A statement that shows the address of the oracle. -/
def showsOracle : Statement := ⟨[.bare "PriceOracle", .bare "Address"], some 2⟩

/-- The oracle that is registered. -/
def newOracle : Contract := ⟨"PriceOracle", "New", "0x7", some "New"⟩

/-- The statement registers the new oracle. -/
theorem acting?_setsOracle :
    ∃ bound, standard.acting? crowdedWorld setsOracle = some (PriceOracle.setCommand, bound) ∧
      PriceOracle.deployed bound = newOracle := by
  rw [acting?]
  change ∃ bound, standard.acting? crowdedWorld
    ⟨[.bare "PriceOracle", .bare "Set", .bare "New", .bare "0x7"], some 1⟩ = _ ∧ _
  rw [acting?]
  exact ⟨_, rfl, rfl⟩

/-- The world in which it is registered. -/
def newWorld : World := PriceOracle.set crowdedWorld "New" "0x7" none

/-- It adds its action and makes no call. -/
theorem observe_setsOracle : (standard.process crowdedWorld setsOracle none).observe [] =
    ⟨⟨.ok newWorld, [.printed "Action: Set PriceOracle (New) to address 0x7"]⟩, []⟩ := by
  have inner : (standard.process crowdedWorld
      ⟨[.bare "PriceOracle", .bare "Set", .bare "New", .bare "0x7"], some 1⟩
        (some "0x5")).observe [] =
        ⟨⟨.ok newWorld, [.printed "Action: Set PriceOracle (New) to address 0x7"]⟩, []⟩ := by
    rw [process]
    rfl
  obtain ⟨notes, redirected⟩ := @observe_process_redirect standard setsOracle _ _ crowdedWorld _ _
    rfl rfl rfl [] none
  exact redirected.trans (congrArg (Observation.within notes _) inner)

/-- The next statement takes the new oracle. -/
theorem acting?_showsOracle : standard.acting? newWorld showsOracle =
    some (PriceOracle.addressCommand, [("priceOracle", .contract newOracle)]) := by
  rw [acting?]
  rfl

/-- The oracle is shown that has been registered under From, not the contract with a similar name.
-/
theorem runScript_lastSetWins_crowded :
    Script.parse "From Root PriceOracle Set New 0x7\nPriceOracle Address" =
        .ok [setsOracle, showsOracle] ∧
      ((standard.runScript crowdedWorld "From Root PriceOracle Set New 0x7\nPriceOracle Address"
        none).run []).result = .ok newWorld ∧
      newWorld.contracts.get? "PriceOracle" = some newOracle ∧
      ((standard.process newWorld showsOracle none).run []).trace = [.printed "Address: 0x7"] := by
  have parsed : Script.parse "From Root PriceOracle Set New 0x7\nPriceOracle Address" =
      .ok [setsOracle, showsOracle] := by
    rfl
  have second : ((standard.process newWorld showsOracle none).run []).result = .ok newWorld := by
    rw [process]
    rfl
  have first : ((standard.process crowdedWorld setsOracle none).run []).result = .ok newWorld :=
    congrArg (·.result) observe_setsOracle
  have noRequest : [] ++ requests ((standard.process crowdedWorld setsOracle none).run []).trace =
      [] := by
    rw [← Play.observe_toOutcome, observe_setsOracle]
    rfl
  have ran : ((standard.runScript crowdedWorld
      "From Root PriceOracle Set New 0x7\nPriceOracle Address" none).run []).result =
        .ok newWorld := by
    simp only [runScript, parsed, processAll]
    rw [Play.run_bind_of_ok first, noRequest, Play.run_bind_of_ok second]
    rfl
  have split : standard.steps none crowdedWorld [] [setsOracle, showsOracle] =
      [⟨setsOracle, crowdedWorld, (standard.process crowdedWorld setsOracle none).observe []⟩] ++
        ⟨showsOracle, newWorld, (standard.process newWorld showsOracle none).observe []⟩ :: [] := by
    rw [steps_cons first, noRequest, steps_cons second]
    rfl
  have sets : registers? crowdedWorld setsOracle = some newOracle := by
    obtain ⟨bound, acting, deployed⟩ := acting?_setsOracle
    rw [registers?, acting]
    exact congrArg some deployed
  have shows : registers? newWorld showsOracle = none := by
    rw [registers?, acting?_showsOracle]
    rfl
  have latest : latestOracle [⟨setsOracle, crowdedWorld,
      (standard.process crowdedWorld setsOracle none).observe []⟩] = some newOracle := by
    rw [latestOracle_cons, Step.registers?, sets]
    rfl
  have latestOfAll : latestOracle (standard.steps none crowdedWorld [] [setsOracle, showsOracle]) =
      some newOracle := by
    rw [split, List.singleton_append, latestOracle_cons, latestOracle_cons, Step.registers?,
      Step.registers?, shows, sets]
    rfl
  obtain ⟨-, leaves, uses⟩ := runScript_lastSetWins crowdedWorld _ _ parsed none []
  obtain ⟨-, -, -, -, registered⟩ := leaves newWorld ran
  rw [latestOfAll] at registered
  obtain ⟨-, shown⟩ := uses _ _ _ _ split latest
  exact ⟨parsed, ran, registered, (shown _ acting?_showsOracle).trace_eq rfl⟩

end Playbook.Engine
