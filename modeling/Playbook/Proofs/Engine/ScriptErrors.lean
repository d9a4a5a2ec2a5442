import Playbook.Proofs.Engine.Binding
import Playbook.Proofs.Vocabulary.Handlers

/-! # Errors of scripts

Whatever a script holds, and whatever the collaborators answer or fail with, the standard engine
comes to an end with a world or with an error of the script. Arithmetic raises no signal, since
every number that is shown or encoded was coerced before; no value is unfit; and no handler asks for
an argument that is not bound.
-/

namespace Playbook

/-- The place that is filled in where the command that a statement is bound to fails. -/
def BoundCommand.place (found : BoundCommand) (line : Option Nat) : Context where
  subsystem := found.subsystem
  command := some found.command.name
  line := line

namespace Engine

/-- All commands of the standard engine are standard commands. -/
theorem isStandard_of_named? {statement rest : Statement} {command : Command}
    (named : standard.named? statement = some (command, rest)) : command.IsStandard := by
  rcases mem_of_named? named with core | ⟨subsystem, registered, member⟩
  · exact .inl core
  · obtain rfl : subsystem = PriceOracle.subsystem := List.mem_singleton.mp registered
    exact .inr member

/-- How a statement is refused: no table is found for it, or no command in the table, or the
parameters of the command cannot be bound. What is known of its place by then is noted. -/
inductive Refuses (engine : Engine) (statement : Statement) : Failure → Prop where
  | unrouted {error : ScriptError} (unrouted : engine.route statement = .error error) :
      Refuses engine statement (.script error)
  | unnamed {route : Route} {cause : Cause} (routed : engine.route statement = .ok route)
      (unnamed : route.table.find route.rest = .error cause) :
      Refuses engine statement ((Failure.ofCause cause).annotate
        { subsystem := route.table.subsystem, line := statement.line })
  | unbound {route : Route} {command : Command} {failure : Failure}
      (routed : engine.route statement = .ok route)
      (named : route.table.find route.rest = .ok command)
      (misbinds : Misbinds command.name command.parameters route.rest.items.tail failure) :
      Refuses engine statement (failure.annotate
        { subsystem := route.table.subsystem, command := some command.name,
          line := statement.line })

/-- A statement is refused by an error of the script. -/
theorem Refuses.isScript {engine : Engine} {statement : Statement} {failure : Failure}
    (refuses : engine.Refuses statement failure) : failure.IsScript := by
  cases refuses with
  | unrouted => exact ⟨_, rfl⟩
  | unnamed => exact keepsNotes_isScript _ _ (Failure.isScript_ofCause _)
  | unbound _ _ misbinds => exact keepsNotes_isScript _ _ misbinds.isScript

/-- A statement is bound to what the handler of its command expects, or it is refused. -/
theorem ends_bindStatement (world : World) (statement : Statement) :
    EndsWith (fun found => StandardBound world found.command found.bound)
      (standard.Refuses statement) (standard.bindStatement world statement) := by
  rcases bindStatement_cases standard world statement with
    ⟨error, unrouted, refused⟩ | ⟨route, cause, routed, unnamed, refused⟩ |
      ⟨route, command, routed, named, binds⟩
  · rw [refused]
    exact .unrouted unrouted
  · rw [refused]
    exact .unnamed routed unnamed
  · have isStandard : command.IsStandard :=
      isStandard_of_named? (named?_eq_some_iff.mpr ⟨route, routed, rfl, named⟩)
    rw [binds]
    apply ((isStandard.ends_bind world _).marked fun _ misbinds =>
      .unbound routed named misbinds).map
    exact fun bound isBound => isBound

/-! ### How statements fail -/

/-- How a statement fails in a world: it is refused, a call or a verification of the command that it
is bound to fails, or it is From, and the statement that it has run in turn fails. -/
inductive Fails (world : World) : Statement → Failure → Prop where
  | refused {statement : Statement} {failure : Failure}
      (binds : standard.bindStatement world statement = .error failure)
      (refuses : standard.Refuses statement failure) : Fails world statement failure
  | called {statement : Statement} {found : BoundCommand} {call : MethodCall} {error : ScriptError}
      (binds : standard.bindStatement world statement = .ok found)
      (direct : ∀ account, found.command.handler ≠ .redirect account)
      (made : call.IsMadeOf found.bound) (fails : world.CallFails call error) :
      Fails world statement ((Failure.script error).annotate (found.place statement.line))
  | verified {statement : Statement} {found : BoundCommand} {asked : Verification}
      {error : ScriptError} (binds : standard.bindStatement world statement = .ok found)
      (direct : ∀ account, found.command.handler ≠ .redirect account)
      (named : asked.contractName = found.bound.text "contractName")
      (fails : world.asReadOnly.VerificationFails asked error) :
      Fails world statement ((Failure.script error).annotate (found.place statement.line))
  | redirected {statement rest : Statement} {found : BoundCommand}
      {account : Bound → Option String} {failure : Failure}
      (binds : standard.bindStatement world statement = .ok found)
      (named : standard.named? statement = some (found.command, rest))
      (redirects : found.command.handler = .redirect account)
      (inner : Fails world (redirectedTo statement rest) failure) :
      Fails world statement (failure.annotate (found.place statement.line))

/-- A statement of the standard engine fails with an error of the script. -/
theorem Fails.isScript {world : World} {statement : Statement} {failure : Failure}
    (fails : Fails world statement failure) : failure.IsScript := by
  induction fails with
  | refused _ refuses => exact refuses.isScript
  | called | verified => exact ⟨_, rfl⟩
  | redirected _ _ _ _ ih => exact keepsNotes_isScript _ _ ih

/-- A statement fails in no other way. The induction is on its size: the statement that From has run
is smaller. -/
theorem ends_process_standard (world : World) (statement : Statement) (sender : Option String) :
    (standard.process world statement sender).Ends world.Continues (Fails world statement) := by
  induction size : Event.sizeOfItems statement.items using Nat.strongRecOn
    generalizing statement sender with
  | ind _ ih =>
    apply ends_process_marked
    have ends := ends_bindStatement world statement
    cases binds : standard.bindStatement world statement with
    | error failure =>
        rw [binds] at ends
        exact .refused binds ends
    | ok found =>
        rw [binds] at ends
        intro rest named
        cases handler : found.command.handler with
        | redirect account =>
            have inner := ih _ (size ▸ size_redirectedTo_lt named) _ (account found.bound) rfl
            apply Command.ends_perform_redirect handler
            apply (inner.imp fun failure fails => Fails.redirected binds named handler fails).map
            exact fun after continues => ⟨after, rfl, continues⟩
        | mutating | view | delegate =>
            have direct : ∀ account, found.command.handler ≠ .redirect account := by
              rw [handler]
              exact nofun
            apply ends.ends_perform
            · intro call made
              exact Play.ends_invoke_of_callFails fun error fails => .called binds direct made fails
            · intro asked named
              exact Play.ends_requestVerification_of_verificationFails fun error fails =>
                .verified binds direct named fails
            · intro isFrom
              rw [isFrom] at direct
              exact absurd rfl (direct _)

/-! ### Runs -/

end Engine
end Playbook
