import Playbook.Engine.Basic
import Playbook.Proofs.Play.Ends

/-! # What the commands of the price oracle do

Every mutating command of the oracle makes at most one call, in the world that it was given and for
the account that sends, and adds one action to that world if the call succeeds. It prints nothing
itself. Views make no call.
-/

namespace Playbook

/-- What can be observed of a handler that makes at most one call and records it. -/
structure RecordsCall (world : World) (sender : Option String)
    (observation : Observation Returned) :
    Prop where
  silent : printedLines observation.trace = []
  once : observation.exchanges.length ≤ 1
  senders : ∀ exchange ∈ observation.exchanges, exchange.sender = world.senderOf sender
  succeeds : ∀ returned, observation.result = .ok returned →
    (∀ exchange ∈ observation.exchanges, exchange.Succeeded) ∧
      ∃ made action, returned = .world made ∧ made.printer = world.printer ∧
        made.accounts = world.accounts ∧ made.actions = world.actions ++ [action] ∧
          action.receipt.toList = observation.exchanges.filterMap Exchange.receipt?

variable {world : World} {sender : Option String}

/-- A failure after at most one call records what there is to record. -/
theorem RecordsCall.of_error (failure : Failure) {trace : List Effect} {exchanges : List Exchange}
    (silent : printedLines trace = []) (once : exchanges.length ≤ 1)
    (senders : ∀ exchange ∈ exchanges, exchange.sender = world.senderOf sender) :
    RecordsCall world sender ⟨⟨.error failure, trace⟩, exchanges⟩ := by
  refine ⟨silent, once, senders, ?_⟩
  intro returned returns
  cases returns

/-- A handler that fails on the way to its call makes none. -/
theorem RecordsCall.of_ofResult {α : Type} {next : α → Play Returned} {earlier : List Request}
    (records : ∀ result, RecordsCall world sender ((next result).observe earlier))
    (result : Except Failure α) :
    RecordsCall world sender ((Play.ofResult result >>= next).observe earlier) := by
  cases result with
  | error failure => exact .of_error failure rfl (Nat.zero_le 1) (List.forall_mem_nil _)
  | ok result => exact records result

namespace PriceOracle

/-- There are six commands of the oracle. -/
theorem mem_commands_iff {command : Command} :
    command ∈ commands ↔
      command = setCommand ∨ command = setRefAddressCommand ∨ command = setPriceCommand ∨
        command = setDirectPriceCommand ∨ command = addressCommand ∨ command = verifyCommand := by
  simp only [commands, List.mem_cons, List.not_mem_nil, or_false]

/-- A call that succeeds is recorded with its receipt, and only then is anything. -/
theorem observe_record (world : World) (sender : Option String) (description : String)
    (call : MethodCall) (earlier : List Request) :
    ∃ failure, (record world sender description call).observe earlier =
      match world.exchange? earlier call sender with
      | none => ⟨⟨.error failure, []⟩, []⟩
      | some exchange =>
        ⟨⟨exchange.receipt?.elim (.error failure) fun receipt =>
            .ok (.world (world.addAction description (some receipt))),
          [.asked (.call exchange.call exchange.sender)]⟩, [exchange]⟩ := by
  obtain ⟨failure, invoked⟩ := Play.observe_invoke earlier world call sender
  refine ⟨failure, ?_⟩
  rw [record, Play.observe_bind, invoked]
  cases world.exchange? earlier call sender with
  | none => rfl
  | some exchange =>
      dsimp only [Option.bind_some]
      cases exchange.receipt? <;> rfl

/-- A call that is recorded is recorded. -/
theorem recordsCall_record (world : World) (sender : Option String) (description : String)
    (call : MethodCall) (earlier : List Request) :
    RecordsCall world sender ((record world sender description call).observe earlier) := by
  obtain ⟨failure, observed⟩ := observe_record world sender description call earlier
  rw [observed]
  cases exchanged : world.exchange? earlier call sender with
  | none => exact .of_error failure rfl (Nat.zero_le 1) (List.forall_mem_nil _)
  | some exchange =>
      have senders : ∀ other ∈ [exchange], other.sender = world.senderOf sender :=
        List.forall_mem_singleton.mpr (World.sender_of_exchange? exchanged)
      cases received : exchange.receipt? with
      | none =>
          dsimp only
          rw [received]
          exact .of_error failure rfl (Nat.le_refl 1) senders
      | some receipt =>
          dsimp only
          rw [received]
          have succeeded : ∀ other ∈ [exchange], other.Succeeded :=
            List.forall_mem_singleton.mpr (Exchange.succeeded_iff.mpr ⟨receipt, received⟩)
          refine ⟨rfl, Nat.le_refl 1, senders, ?_⟩
          intro returned returns
          obtain rfl := Except.ok.inj returns
          refine ⟨succeeded, _, ⟨description, some receipt⟩, rfl, rfl, rfl, rfl, ?_⟩
          simp [received]

/-- A price is set by a call that is recorded. -/
theorem recordsCall_setPrice (method : String) (world : World) (sender : Option String)
    (bound : Bound) (target : String) (earlier : List Request) :
    RecordsCall world sender ((setPrice method world sender bound target).observe earlier) := by
  apply RecordsCall.of_ofResult
  intro shown
  apply RecordsCall.of_ofResult
  intro encoded
  exact recordsCall_record world sender _ _ earlier

/-- Registering an oracle makes no call and records none. -/
theorem recordsCall_set (world : World) (sender : Option String) (kind address : String)
    (description : Option String) (earlier : List Request) :
    RecordsCall world sender
      ((Play.done (.world (set world kind address description))).observe earlier) := by
  refine ⟨rfl, Nat.zero_le 1, List.forall_mem_nil _, ?_⟩
  intro returned returns
  exact ⟨List.forall_mem_nil _, _, _, (Except.ok.inj returns).symm, rfl, rfl, rfl, rfl⟩

/-- Every mutating command of the oracle records its call. -/
theorem recordsCall_of_mutating {command : Command} (member : command ∈ commands)
    {play : World → Option String → Bound → Play Returned}
    (mutating : command.handler = .mutating play) (world : World) (sender : Option String)
    (bound : Bound) (earlier : List Request) :
    RecordsCall world sender ((play world sender bound).observe earlier) := by
  simp only [commands, List.mem_cons, List.not_mem_nil, or_false] at member
  rcases member with rfl | rfl | rfl | rfl | rfl | rfl
  · obtain rfl := Handler.mutating.inj mutating
    exact recordsCall_set world sender _ _ _ earlier
  · obtain rfl := Handler.mutating.inj mutating
    exact recordsCall_record world sender _ _ earlier
  · obtain rfl := Handler.mutating.inj mutating
    exact recordsCall_setPrice _ world sender bound _ earlier
  · obtain rfl := Handler.mutating.inj mutating
    exact recordsCall_setPrice _ world sender bound _ earlier
  · cases mutating
  · cases mutating

/-- Verifying the oracle makes no call. -/
theorem exchanges_verify (world : World) (bound : Bound) (earlier : List Request) :
    (verify world bound).exchanges earlier = [] := by
  have last (result : Unit) (earlier : List Request) :
      (pure (.datum (.value .nothing)) : Play Returned).exchanges earlier = [] := rfl
  unfold verify
  split
  · exact (Play.exchanges_bind_of_none last earlier _).trans (Play.exchanges_printLines earlier _)
  · exact (Play.exchanges_bind_of_none last earlier _).trans
      (Play.exchanges_requestVerification earlier world _)

/-- No view of the oracle makes a call. -/
theorem exchanges_of_view {command : Command} (member : command ∈ commands)
    {play : World → Bound → Play Returned} (view : command.handler = .view play) (world : World)
    (bound : Bound) (earlier : List Request) : (play world bound).exchanges earlier = [] := by
  simp only [commands, List.mem_cons, List.not_mem_nil, or_false] at member
  rcases member with rfl | rfl | rfl | rfl | rfl | rfl
  · cases view
  · cases view
  · cases view
  · cases view
  · obtain rfl := Handler.view.inj view
    rfl
  · obtain rfl := Handler.view.inj view
    exact exchanges_verify world bound earlier

/-! ### How they end -/

section
variable {gives : Returned → Prop} {fails : Failure → Prop}
  (given : ∀ description receipt, gives (.world (world.addAction description (some receipt))))
include given

/-- What a call makes of the world is one more action, and only the call can fail. -/
theorem ends_record {call : MethodCall}
    (called : (Play.invoke world call sender).Ends (fun _ => True) fails) (description : String) :
    (record world sender description call).Ends gives fails := by
  apply called.bind
  intro receipt _
  exact Play.ends_done (given description receipt)

/-- A price may also fail to be shown or to be encoded. -/
theorem ends_setPrice {bound : Bound} {method target : String}
    (called : ∀ encoded, (Play.invoke world ⟨bound.contract "priceOracle", method,
      [.str (bound.text target), .int encoded]⟩ sender).Ends (fun _ => True) fails)
    (shows : EndsWith (fun _ => True) fails
      (((bound.number "amount").1.render Decimal.shownLimits).mapError .arithmetic))
    (encodes : EndsWith (fun _ => True) fails
      ((bound.number "amount").1.encode (bound.number "amount").2)) :
    (setPrice method world sender bound target).Ends gives fails := by
  apply (Play.ends_ofResult shows).bind
  intro shown _
  apply (Play.ends_ofResult encodes).bind
  intro encoded _
  exact ends_record given (called _) _

end

end PriceOracle
end Playbook
