import Playbook.Proofs.Command.Perform
import Playbook.Proofs.Number.Encoding
import Playbook.Proofs.Number.Shown
import Playbook.Proofs.Vocabulary.Bound

/-! # How the standard commands end

Once it is bound, a standard command can fail in its calls and its verifications only, or in the
statement that it runs in turn. If it succeeds it leaves a world that continues the one before: all
names that could be resolved still can, and the collaborators are the same.
-/

namespace Playbook

/-- The contracts and the addresses that can be found by name in a world can be found in another. -/
structure World.StillResolves (world after : World) : Prop where
  contracts : ∀ name, (world.contract? name).isSome → (after.contract? name).isSome
  addresses : ∀ name, (world.address? name).isSome → (after.address? name).isSome

/-- A world that a command may leave: names are still resolved, and who answers is the same. -/
structure World.Continues (world after : World) : Prop extends World.StillResolves world after where
  readOnly : after.readOnly = world.readOnly
  invoker : after.invoker = world.invoker
  verifier : after.verifier = world.verifier

namespace World

/-- A world continues itself. -/
theorem Continues.refl (world : World) : world.Continues world :=
  ⟨⟨fun _ found => found, fun _ found => found⟩, rfl, rfl, rfl⟩

/-- What continues a continuation continues the world. -/
theorem Continues.trans {world next after : World} (first : world.Continues next)
    (second : next.Continues after) : world.Continues after where
  contracts := fun name found => second.contracts name (first.contracts name found)
  addresses := fun name found => second.addresses name (first.addresses name found)
  readOnly := second.readOnly.trans first.readOnly
  invoker := second.invoker.trans first.invoker
  verifier := second.verifier.trans first.verifier

/-- A new action continues the world. -/
theorem continues_addAction (world : World) (description : String) (receipt : Option Receipt) :
    world.Continues (world.addAction description receipt) :=
  ⟨⟨fun _ found => found, fun _ found => found⟩, rfl, rfl, rfl⟩

end World

namespace Records

/-- An entry is found by name if some key is the name, whatever the case. -/
theorem isSome_findByName_iff {α : Type} {table : Table α} {name : String} :
    (findByName table name).isSome ↔ ∃ key ∈ table.keys, Text.lower key = Text.lower name := by
  rw [findByName, Option.isSome_map, List.find?_isSome]
  simp [Table.keys]

/-- A name that is found in a table is still found when another entry is set. -/
theorem isSome_findByName_set {α : Type} {table : Table α} {name : String} (key : String)
    (entry : α)
    (found : (findByName table name).isSome) : (findByName (table.set key entry) name).isSome := by
  obtain ⟨other, member, same⟩ := isSome_findByName_iff.mp found
  refine isSome_findByName_iff.mpr ⟨other, ?_, same⟩
  rw [Table.keys_set]
  split
  · exact member
  · exact List.mem_append_left _ member

end Records

/-- A contract that is registered continues the world. -/
theorem World.continues_withContract (world : World) (contract : Contract) :
    world.Continues (world.withContract contract) := by
  refine ⟨⟨?_, ?_⟩, rfl, rfl, rfl⟩
  · intro name found
    rw [Records.contract?, Option.isSome_or, Bool.or_eq_true] at found ⊢
    rcases found with exactly | byName
    · by_cases same : name = contract.name
      · subst same
        exact .inl (by rw [withContract, Table.get?_set_self]; rfl)
      · rw [withContract, Table.get?_set_of_ne _ _ same]
        exact .inl exactly
    · exact .inr (Records.isSome_findByName_set _ _ byName)
  · intro name found
    rw [Records.address?, Option.isSome_or, Bool.or_eq_true, Option.isSome_map] at found ⊢
    rcases found with account | contract
    · exact .inl account
    · exact .inr (Records.isSome_findByName_set _ _ contract)

/-! ### The kinds of commands -/

/-- What is returned is a world that continues this one with one more action. -/
def World.MutatesTo (world : World) (returned : Returned) : Prop :=
  ∃ after action, returned = .world after ∧ after.actions = world.actions ++ [action] ∧
    world.Continues after

/-- A world with one more action is what a mutating command may make. -/
theorem World.mutatesTo_addAction (world : World) (description : String) (receipt : Receipt) :
    world.MutatesTo (.world (world.addAction description (some receipt))) :=
  ⟨_, _, rfl, rfl, world.continues_addAction description (some receipt)⟩

/-- What is returned is a value that can be shown. -/
def Returned.CanBeShown (returned : Returned) : Prop :=
  ∃ value text, returned = .datum (.value value) ∧ value.render = .ok text

namespace Command

variable {world : World} {sender : Option String} {command : Command} {bound : Bound}
  {redirect : Option String → Play Returned} {fails : Failure → Prop}

/-- The new action of a log with one more action is that action. -/
theorem newAction?_append (before : List Action) (action : Action) :
    newAction? before (before ++ [action]) = some action := by
  simp [newAction?]

/-- A mutating command continues the world if its handler makes what such commands may make. -/
theorem ends_perform_mutating {play : World → Option String → Bound → Play Returned}
    (mutating : command.handler = .mutating play)
    (ends : (play world sender bound).Ends world.MutatesTo fails) :
    (command.perform world sender bound redirect).Ends world.Continues fails := by
  simp only [perform, mutating, bind_assoc]
  apply ends.bind
  rintro _ ⟨after, action, rfl, log, continues⟩
  change (command.conclude world after).Ends world.Continues fails
  rw [conclude, log, newAction?_append]
  exact (Play.ends_done continues).print _

/-- A view continues the world if the value of its handler can be shown. -/
theorem ends_perform_view {play : World → Bound → Play Returned}
    (view : command.handler = .view play)
    (ends : (play world.asReadOnly bound).Ends Returned.CanBeShown fails) :
    (command.perform world sender bound redirect).Ends world.Continues fails := by
  simp only [perform, view, bind_assoc]
  apply ends.bind
  rintro _ ⟨value, text, rfl, shown⟩
  change (command.announce value >>= fun _ => pure world).Ends world.Continues fails
  unfold announce Printer.value
  split
  · exact Play.ends_done (.refl world)
  · rw [shown]
    exact (Play.ends_done (.refl world)).print _

/-- A redirecting command continues the world if the statement after it does. -/
theorem ends_perform_redirect {account : Bound → Option String}
    (redirects : command.handler = .redirect account)
    (ends : (redirect (account bound)).Ends
      (fun returned => ∃ after, returned = .world after ∧ world.Continues after) fails) :
    (command.perform world sender bound redirect).Ends world.Continues fails := by
  simp only [perform, redirects]
  apply ends.bind
  rintro _ ⟨after, rfl, continues⟩
  exact Play.ends_done continues

end Command

/-- Printing lines gives nothing, which can be shown. -/
theorem Play.ends_printing {fails : Failure → Prop} (lines : List String) :
    (do Play.printLines lines; return .datum (.value .nothing) : Play Returned).Ends
      Returned.CanBeShown fails :=
  (Play.ends_printLines lines).bind fun _ _ => Play.ends_done ⟨.nothing, "", rfl, rfl⟩

/-! ### The standard commands -/

namespace PriceOracle
variable {world : World} {sender : Option String} {fails : Failure → Prop}

/-- Registering an oracle makes what a mutating command may make. -/
theorem ends_set (kind address : String) (description : Option String) :
    (Play.done (.world (set world kind address description)) : Play Returned).Ends
      world.MutatesTo fails :=
  Play.ends_done ⟨_, _, rfl, rfl,
    (world.continues_withContract _).trans (World.continues_addAction _ _ _)⟩

/-- Verifying the oracle gives nothing, which can be shown, and fails as verifications do. -/
theorem ends_verify {bound : Bound}
    (verified : (Play.requestVerification world ⟨bound.text "apiKey", name,
      bound.text "contractName",
      (bound.contract "priceOracle").address⟩).Ends (fun _ => True) fails) :
    (verify world bound).Ends Returned.CanBeShown fails := by
  unfold verify
  split
  · exact Play.ends_printing _
  · exact verified.bind fun _ _ => Play.ends_done ⟨.nothing, "", rfl, rfl⟩

/-- A number that was coerced can be shown and encoded. -/
theorem ends_setPrice_of_isCoerced {bound : Bound} {method target : String} {val : Decimal}
    {scale : Int} (coerced : IsCoerced val scale) (amount : bound.number "amount" = (val, scale))
    (called : ∀ encoded, (Play.invoke world ⟨bound.contract "priceOracle", method,
      [.str (bound.text target), .int encoded]⟩ sender).Ends (fun _ => True) fails) :
    (setPrice method world sender bound target).Ends world.MutatesTo fails := by
  apply ends_setPrice world.mutatesTo_addAction called
  · obtain ⟨text, -, renders, -, -⟩ := coerced.ofToken?_render
    rw [Value.render] at renders
    rw [amount, renders]
    trivial
  · have encoded := coerced.encode_eq
    rw [Value.encode] at encoded
    rw [amount]
    cases encodes : val.encode scale with
    | ok integer => trivial
    | error failure =>
        rw [encodes] at encoded
        cases encoded

end PriceOracle

/-- The call is one of the oracle that a command is bound to; its arguments are texts that the
command is bound to, and numbers. -/
structure MethodCall.IsMadeOf (call : MethodCall) (bound : Bound) : Prop where
  contract : call.contract = bound.contract "priceOracle"
  method : call.method ∈ ["setRefAddress", "setUnderlyingPrice", "setDirectPrice"]
  arguments : ∀ argument ∈ call.arguments,
    (∃ name, argument = .str (bound.text name)) ∨ ∃ number, argument = .int number

/-- What a standard command does ends as its calls, its verifications and the statement that it runs
in turn do: nothing else that it does can fail. -/
theorem StandardBound.ends_perform {world : World} {sender : Option String} {command : Command}
    {bound : Bound} {redirect : Option String → Play Returned} {fails : Failure → Prop}
    (isBound : StandardBound world command bound)
    (called : ∀ call : MethodCall, call.IsMadeOf bound →
      (Play.invoke world call sender).Ends (fun _ => True) fails)
    (verified : ∀ verification, verification.contractName = bound.text "contractName" →
      (Play.requestVerification world.asReadOnly verification).Ends (fun _ => True) fails)
    (redirected : command = Core.fromCommand → ∀ account, (redirect account).Ends
      (fun returned => ∃ after, returned = .world after ∧ world.Continues after) fails) :
    (command.perform world sender bound redirect).Ends world.Continues fails := by
  have priced (method target : String)
      (listed : method ∈ ["setRefAddress", "setUnderlyingPrice", "setDirectPrice"])
        (encoded : Int) :
      (Play.invoke world ⟨bound.contract "priceOracle", method,
        [.str (bound.text target), .int encoded]⟩ sender).Ends (fun _ => True) fails := by
    apply called _ ⟨rfl, listed, _⟩
    exact List.forall_mem_cons.mpr
      ⟨.inl ⟨target, rfl⟩, List.forall_mem_singleton.mpr (.inr ⟨encoded, rfl⟩)⟩
  cases isBound with
  | «from» account statement => exact Command.ends_perform_redirect rfl (redirected rfl _)
  | print items =>
      apply Command.ends_perform_view rfl
      exact (Play.ends_done ⟨.nothing, "", rfl, rfl⟩).print _
  | history => exact Command.ends_perform_view rfl (Play.ends_printing _)
  | historyOf scale whole natural =>
      exact Command.ends_perform_view rfl (Play.ends_printing _)
  | set kind address => exact Command.ends_perform_mutating rfl (PriceOracle.ends_set _ _ _)
  | setDescribed kind address description =>
      exact Command.ends_perform_mutating rfl (PriceOracle.ends_set _ _ _)
  | setRefAddress found address =>
      apply Command.ends_perform_mutating rfl
      apply PriceOracle.ends_record world.mutatesTo_addAction
      exact called _ ⟨rfl, List.mem_cons_self, List.forall_mem_singleton.mpr (.inl ⟨"ref", rfl⟩)⟩
  | setPrice found token coerced =>
      apply Command.ends_perform_mutating rfl
      exact PriceOracle.ends_setPrice_of_isCoerced coerced rfl (priced _ "sToken" (by decide))
  | setDirectPrice found address coerced =>
      apply Command.ends_perform_mutating rfl
      exact PriceOracle.ends_setPrice_of_isCoerced coerced rfl (priced _ "address" (by decide))
  | address found => exact Command.ends_perform_view rfl (Play.ends_done ⟨_, _, rfl, rfl⟩)
  | verify found apiKey contractName =>
      exact Command.ends_perform_view rfl (PriceOracle.ends_verify (verified _ rfl))

end Playbook
