import Playbook.Proofs.Command.Perform
import Playbook.Proofs.Play.Asking
import Playbook.Proofs.Vocabulary.Bound

/-! # What the standard commands leave alone

Set registers the oracle. Of all that a world holds, no other standard command that acts changes
more than the log, and whatever one asks for concerns the oracle that is registered.
-/

namespace Playbook

namespace PriceOracle

/-- The contract that Set registers with its arguments. -/
def deployed (bound : Bound) : Contract where
  name := name
  kind := bound.text "kind"
  address := bound.text "address"
  description := some <|
    match bound.text? "description" with
    | none => bound.text "kind"
    | some text => if text.isEmpty then bound.text "kind" else text

/-- The contract that a command registers with its arguments, if it is Set. -/
def registers? (command : Command) (bound : Bound) : Option Contract :=
  if command.name = setCommand.name then some (deployed bound) else none

end PriceOracle

/-- A world has become another by actions alone, and by registering the oracle if there is one to be
registered. -/
structure World.OnlyRegisters (world : World) (oracle : Option Contract) (after : World) :
    Prop where
  others : after = { world with contracts := after.contracts, actions := after.actions }
  contracts : after.contracts = oracle.elim world.contracts (world.contracts.set PriceOracle.name)

namespace World.OnlyRegisters
variable {world next after : World}

/-- Nothing is registered where the world stays as it is. -/
theorem refl (world : World) : world.OnlyRegisters none world := ⟨rfl, rfl⟩

/-- The oracle that is registered last stays. -/
theorem trans {first last : Option Contract} (before : world.OnlyRegisters first next)
    (later : next.OnlyRegisters last after) : world.OnlyRegisters (last.or first) after := by
  constructor
  · rw [later.others, before.others]
  · rw [later.contracts, before.contracts]
    cases last with
    | none => rfl
    | some last =>
        cases first with
        | none => rfl
        | some first => exact Table.set_set ..

/-- The oracle that has been registered is the one that its name stands for, even where there are
other contracts whose names differ in case only. -/
theorem contract?_eq_some {oracle : Contract}
    (registers : world.OnlyRegisters (some oracle) after) :
    after.contract? PriceOracle.name = some oracle := by
  rw [Records.contract?, registers.contracts, Option.elim, Table.get?_set_self, Option.some_or]

end World.OnlyRegisters

/-! ### Handlers -/

namespace PriceOracle
variable {world : World} {sender : Option String}

/-- Of a world that is returned, no more than the log has changed. -/
def OnlyLogs (world : World) (returned : Returned) : Prop :=
  ∀ after, returned = .world after → world.OnlyRegisters none after

/-- A new action is only logged. -/
theorem onlyLogs_addAction (world : World) (description : String) (receipt : Receipt) :
    OnlyLogs world (.world (world.addAction description (some receipt))) := by
  rintro _ ⟨⟩
  exact ⟨rfl, rfl⟩

/-- A recorded call is only logged. -/
theorem onlyLogs_record (description : String) (call : MethodCall) :
    (record world sender description call).Ends (OnlyLogs world) fun _ => True :=
  ends_record (onlyLogs_addAction world) (Play.ends_any _) description

/-- A price that is set is only logged. -/
theorem onlyLogs_setPrice (method : String) (bound : Bound) (target : String) :
    (setPrice method world sender bound target).Ends (OnlyLogs world) fun _ => True :=
  ends_setPrice (onlyLogs_addAction world) (fun _ => Play.ends_any _) (.any _) (.any _)

end PriceOracle

/-- A command that acts and succeeds registers the oracle if it is Set, and else only has its action
logged. -/
theorem StandardBound.onlyRegisters {world after : World} {command : Command} {bound : Bound}
    {sender : Option String} {redirect : Option String → Play Returned} {earlier : List Request}
    (isBound : StandardBound world command bound)
    (direct : ∀ account, command.handler ≠ .redirect account)
    (succeeds : ((command.perform world sender bound redirect).observe earlier).result =
      .ok after) :
    world.OnlyRegisters (PriceOracle.registers? command bound) after := by
  -- what is returned by a command that makes a call is known from how its handler ends
  have of_ends {play : World → Option String → Bound → Play Returned}
      (mutating : command.handler = .mutating play)
      (ends : (play world sender bound).Ends (PriceOracle.OnlyLogs world) fun _ => True) :
      world.OnlyRegisters none after := by
    obtain ⟨returns, -⟩ := Command.perform_mutating mutating succeeds
    have returned := ends earlier
    rw [returns] at returned
    exact returned after rfl
  cases isBound with
  | «from» => exact absurd rfl (direct _)
  | print | history | historyOf | address | verify =>
      obtain rfl := Command.perform_view rfl succeeds
      exact .refl after
  | set | setDescribed =>
      obtain ⟨returns, -⟩ := Command.perform_mutating rfl succeeds
      obtain rfl := Returned.world.inj (Except.ok.inj returns)
      exact ⟨rfl, rfl⟩
  | setRefAddress => exact of_ends rfl (PriceOracle.onlyLogs_record _ _)
  | setPrice | setDirectPrice => exact of_ends rfl (PriceOracle.onlyLogs_setPrice _ _ _)

/-! ### Requests -/

/-- The request is a call of a contract, or has it verified. -/
def Request.Concerns (contract : Contract) : Request → Prop
  | .call method _ => method.contract = contract
  | .verification asked => asked.address = contract.address

namespace Command
variable {command : Command} {world : World} {sender : Option String} {bound : Bound}
  {redirect : Option String → Play Returned} {allowed : Request → Prop}

/-- A mutating command asks for what its handler asks for. -/
theorem asksOnly_perform_mutating {play : World → Option String → Bound → Play Returned}
    (mutating : command.handler = .mutating play)
    (asks : (play world sender bound).AsksOnly allowed) :
    (command.perform world sender bound redirect).AsksOnly allowed := by
  simp only [perform, mutating, bind_assoc]
  apply asks.bind
  intro returned
  cases returned with
  | datum datum => exact Play.asksOnly_fail _
  | world after =>
      change (command.conclude world after).AsksOnly allowed
      unfold conclude
      split
      · exact (Play.asksOnly_done _).print _
      · exact Play.asksOnly_fail _

/-- A view asks for what its handler asks for. -/
theorem asksOnly_perform_view {play : World → Bound → Play Returned}
    (view : command.handler = .view play) (asks : (play world.asReadOnly bound).AsksOnly allowed) :
    (command.perform world sender bound redirect).AsksOnly allowed := by
  simp only [perform, view, bind_assoc]
  have expects (returned : Returned) : (command.expectValue returned).AsksOnly allowed := by
    unfold expectValue
    split
    · exact Play.asksOnly_done _
    · exact Play.asksOnly_fail _
    · exact Play.asksOnly_fail _
  have announces (value : Value) : (command.announce value).AsksOnly allowed := by
    unfold announce
    split
    · exact Play.asksOnly_done _
    split
    · exact (Play.asksOnly_done _).print _
    · exact Play.asksOnly_fail _
  apply asks.bind
  intro returned
  apply (expects returned).bind
  intro value
  exact (announces value).bind fun _ => Play.asksOnly_done world

end Command

namespace PriceOracle
variable {world : World} {sender : Option String} {oracle : Contract}

/-- Recording a call of the oracle concerns the oracle. -/
theorem asksOnly_record (description : String) {call : MethodCall}
    (calls : call.contract = oracle) :
    (record world sender description call).AsksOnly (Request.Concerns oracle) :=
  (Play.asksOnly_invoke fun _ => calls).bind fun _ => Play.asksOnly_done _

/-- Setting a price of the oracle concerns the oracle. -/
theorem asksOnly_setPrice (method : String) (bound : Bound) (target : String)
    (calls : bound.contract "priceOracle" = oracle) :
    (setPrice method world sender bound target).AsksOnly (Request.Concerns oracle) := by
  refine (Play.asksOnly_ofResult _).bind fun shown => ?_
  refine (Play.asksOnly_ofResult _).bind fun encoded => ?_
  exact asksOnly_record _ calls

/-- Verifying the oracle concerns the oracle. -/
theorem asksOnly_verify {bound : Bound}
    (verifies : (bound.contract "priceOracle").address = oracle.address) :
    (verify world bound).AsksOnly (Request.Concerns oracle) := by
  unfold verify
  split
  · exact (Play.asksOnly_printLines _).bind fun _ => Play.asksOnly_done _
  · exact (Play.asksOnly_requestVerification verifies).bind fun _ => Play.asksOnly_done _

end PriceOracle

/-- What a command that takes the oracle is bound to is the contract that has the name of the
oracle. -/
theorem PriceOracle.contract_of_bind {world : World} {command : Command}
    {parameters : List Parameter}
    {events : List Event} {bound : Bound} (takesOracle : command.parameters = oracle :: parameters)
    (binds : command.bind world events = .ok bound) :
    world.contract? name = some (bound.contract "priceOracle") := by
  rw [Command.bind, takesOracle] at binds
  obtain ⟨datum, rest, others, takes, -, rfl⟩ := bindFrom_cons_eq_ok.mp binds
  have reads : Coerce.contract name world none = .ok datum :=
    (pair_annotateResult_eq_ok.mp takes).1
  obtain ⟨handle, found, rfl⟩ := Coerce.contract_eq_ok reads
  exact found

/-- Whatever a command that acts asks for concerns the contract that has the name of the oracle. -/
theorem StandardBound.asksOnly {world : World} {command : Command} {bound : Bound}
    {sender : Option String} {redirect : Option String → Play Returned} {oracle : Contract}
    (isBound : StandardBound world command bound)
    (direct : ∀ account, command.handler ≠ .redirect account)
    (registered : world.contract? PriceOracle.name = some oracle) :
    (command.perform world sender bound redirect).AsksOnly (Request.Concerns oracle) := by
  have same {other : Contract} (found : world.contract? PriceOracle.name = some other) :
      other = oracle :=
    Option.some.inj (found.symm.trans registered)
  cases isBound with
  | «from» => exact absurd rfl (direct _)
  | print => exact Command.asksOnly_perform_view rfl ((Play.asksOnly_done _).print _)
  | history | historyOf =>
      refine Command.asksOnly_perform_view rfl ?_
      exact (Play.asksOnly_printLines _).bind fun _ => Play.asksOnly_done _
  | set | setDescribed => exact Command.asksOnly_perform_mutating rfl (Play.asksOnly_done _)
  | setRefAddress found =>
      exact Command.asksOnly_perform_mutating rfl (PriceOracle.asksOnly_record _ (same found))
  | setPrice found | setDirectPrice found =>
      exact Command.asksOnly_perform_mutating rfl (PriceOracle.asksOnly_setPrice _ _ _ (same found))
  | address => exact Command.asksOnly_perform_view rfl (Play.asksOnly_done _)
  | verify found =>
      refine Command.asksOnly_perform_view rfl ?_
      exact PriceOracle.asksOnly_verify (congrArg Contract.address (same found))

end Playbook
