import Playbook.Command.Dispatch
import Playbook.Proofs.Play.Observation

/-! # What the kinds of commands do

Whatever the handler of a command is, the command does no more than its kind allows. A mutating
command that succeeds has added one action to the log, and a view gives back the world that it was
given. All calls that a command makes are made by its handler.
-/

namespace Playbook

namespace Play
variable {α : Type}

/-- A play that asks for nothing and prints at most one line. -/
def PrintsAtMostOnce (play : Play α) : Prop :=
  ∃ (result : Except Failure α) (lines : List String), lines.length ≤ 1 ∧
    ∀ earlier, play.observe earlier = ⟨⟨result, lines.map .printed⟩, []⟩

/-- A play that is done prints nothing. -/
theorem printsAtMostOnce_done (result : α) : (done result).PrintsAtMostOnce :=
  ⟨_, [], Nat.zero_le 1, fun _ => rfl⟩

/-- A play that fails at once prints nothing. -/
theorem printsAtMostOnce_fail (failure : Failure) : (fail failure : Play α).PrintsAtMostOnce :=
  ⟨_, [], Nat.zero_le 1, fun _ => rfl⟩

/-- A play that prints one line and is done prints no more than that. -/
theorem printsAtMostOnce_print (line : String) (result : α) :
    (print line (done result)).PrintsAtMostOnce :=
  ⟨_, [line], Nat.le_refl 1, fun _ => rfl⟩

end Play

namespace Command

variable {world after : World} {earlier : List Request} {sender : Option String} {command : Command}
  {bound : Bound} {redirect : Option String → Play Returned}

/-- The new action of a log is the one at its end. -/
theorem newAction?_eq_some {before after : List Action} {action : Action}
    (isNew : newAction? before after = some action) : after = before ++ [action] := by
  unfold newAction? at isNew
  split at isNew
  next other dropped =>
      split at isNew
      next kept =>
          obtain rfl := Option.some.inj isNew
          rw [← List.take_append_drop before.length after, kept, dropped]
      · cases isNew
  · cases isNew

/-- A mutating command adds one action, which it prints after the lines of its handler. -/
theorem perform_mutating {play : World → Option String → Bound → Play Returned}
    (mutating : command.handler = .mutating play)
    (succeeds : ((command.perform world sender bound redirect).observe earlier).result =
      .ok after) :
    ((play world sender bound).run earlier).result = .ok (.world after) ∧
      ∃ action, after.actions = world.actions ++ [action] ∧
        ((command.perform world sender bound redirect).observe earlier).trace =
          ((play world sender bound).run earlier).trace ++ [.printed (Printer.action action)] := by
  simp only [perform, mutating, bind_assoc] at succeeds ⊢
  obtain ⟨returned, returns, concludes, observed⟩ := Play.observe_bind_ok succeeds
  cases returned with
  | datum datum => cases concludes
  | world made =>
      have expected : (command.expectWorld (.world made) >>= command.conclude world) =
          command.conclude world made := rfl
      rw [expected, conclude] at concludes observed
      cases isNew : newAction? world.actions made.actions with
      | none =>
          rw [isNew] at concludes
          cases concludes
      | some action =>
          rw [isNew] at concludes observed
          obtain rfl : made = after := Except.ok.inj concludes
          exact ⟨returns, action, newAction?_eq_some isNew, by rw [observed]; rfl⟩

/-- A view gives back the world that it was given. -/
theorem perform_view {play : World → Bound → Play Returned}
    (view : command.handler = .view play)
    (succeeds : ((command.perform world sender bound redirect).observe earlier).result =
      .ok after) :
    after = world := by
  simp only [perform, view, bind_assoc] at succeeds
  obtain ⟨returned, _, valued, _⟩ := Play.observe_bind_ok succeeds
  obtain ⟨value, _, announced, _⟩ := Play.observe_bind_ok valued
  obtain ⟨_, _, returns, _⟩ := Play.observe_bind_ok announced
  exact (Except.ok.inj returns).symm

/-- A redirecting command only passes on what the redirected statement does. -/
theorem perform_redirect {account : Bound → Option String}
    (redirects : command.handler = .redirect account) (world : World) (sender : Option String)
    (bound : Bound) (redirect : Option String → Play World) :
    (command.perform world sender bound fun account => Returned.world <$> redirect account) =
      redirect (account bound) := by
  simp only [perform, redirects, bind_map_left, expectWorld]
  exact bind_pure _

/-! ### The handler and what follows it -/

/-- What the handler of a command does with the arguments of the command. A view is handed the world
as read only; a redirecting command has a statement run for the account that its arguments give. -/
def handle (command : Command) (world : World) (sender : Option String) (bound : Bound)
    (redirect : Option String → Play Returned) : Play Returned :=
  match command.handler with
  | .mutating play | .delegate play => play world sender bound
  | .view play => play world.asReadOnly bound
  | .redirect account => redirect (account bound)

/-- The handler of a mutating command acts in the world, for the sender. -/
theorem handle_of_mutating {play : World → Option String → Bound → Play Returned}
    (mutating : command.handler = .mutating play) :
    command.handle world sender bound redirect = play world sender bound := by
  rw [handle, mutating]

/-- The handler of a view acts in the world as read only. -/
theorem handle_of_view {play : World → Bound → Play Returned}
    (view : command.handler = .view play) :
    command.handle world sender bound redirect = play world.asReadOnly bound := by
  rw [handle, view]

/-- What follows the handler of a command. From a mutating command a world with one new action is
expected, which is printed; from a view a value, which is printed and leaves the world as it was
before; from any other command a world. -/
def settle (command : Command) (before : World) (returned : Returned) : Play World :=
  match command.kind with
  | .mutating => command.expectWorld returned >>= command.conclude before
  | .view => do
    let value ← command.expectValue returned
    command.announce value
    return before
  | .delegate => command.expectWorld returned

/-- A command has its handler act once and then settles what was returned. -/
theorem perform_eq_handle (command : Command) (world : World) (sender : Option String)
    (bound : Bound) (redirect : Option String → Play Returned) :
    command.perform world sender bound redirect =
      command.handle world sender bound redirect >>= command.settle world := by
  unfold perform handle
  cases handler : command.handler with
  | mutating play =>
      have settles : command.settle world =
          fun returned => command.expectWorld returned >>= command.conclude world := by
        funext returned
        simp only [settle, kind, handler, Handler.kind]
      rw [settles]
      exact bind_assoc ..
  | view play =>
      have settles : command.settle world = fun returned => do
          let value ← command.expectValue returned
          command.announce value
          return world := by
        funext returned
        simp only [settle, kind, handler, Handler.kind]
      rw [settles]
      exact bind_assoc ..
  | delegate play | redirect account =>
      have settles : command.settle world = command.expectWorld := by
        funext returned
        simp only [settle, kind, handler, Handler.kind]
      rw [settles]

/-- Concluding a mutating command prints at most its action. -/
theorem printsAtMostOnce_conclude (command : Command) (before after : World) :
    (command.conclude before after).PrintsAtMostOnce := by
  unfold conclude
  split
  · exact Play.printsAtMostOnce_print ..
  · exact Play.printsAtMostOnce_fail _

/-- Announcing a value prints at most the value. -/
theorem printsAtMostOnce_announce (command : Command) (value : Value) (world : World) :
    (command.announce value >>= fun _ => pure world).PrintsAtMostOnce := by
  unfold announce
  split
  · exact Play.printsAtMostOnce_done world
  · split
    · exact Play.printsAtMostOnce_print ..
    · exact Play.printsAtMostOnce_fail _

/-- Nothing is asked for after the handler, and at most one line is printed. -/
theorem printsAtMostOnce_settle (command : Command) (before : World) (returned : Returned) :
    (command.settle before returned).PrintsAtMostOnce := by
  unfold settle
  cases command.kind with
  | mutating =>
      cases returned with
      | world after => exact printsAtMostOnce_conclude command before after
      | datum datum => exact Play.printsAtMostOnce_fail _
  | view =>
      cases returned with
      | world after => exact Play.printsAtMostOnce_fail _
      | datum datum =>
          cases datum with
          | value value => exact printsAtMostOnce_announce command value before
          | contract | absent | foreign => exact Play.printsAtMostOnce_fail _
  | delegate =>
      cases returned with
      | world after => exact Play.printsAtMostOnce_done after
      | datum datum => exact Play.printsAtMostOnce_fail _

/-- What can be observed of a command: all that its handler does, then at most one printed line. The
result is what the handler returned, as it is settled. -/
theorem observe_perform (command : Command) (world : World) (sender : Option String) (bound : Bound)
    (redirect : Option String → Play Returned) (earlier : List Request) :
    let handled := (command.handle world sender bound redirect).observe earlier
    ∃ lines : List String, lines.length ≤ 1 ∧
      (command.perform world sender bound redirect).observe earlier =
        ⟨⟨handled.result >>= fun returned => ((command.settle world returned).run []).result,
          handled.trace ++ lines.map .printed⟩, handled.exchanges⟩ := by
  intro handled
  rw [perform_eq_handle, Play.observe_bind, Observation.andThen]
  cases returns : handled.result with
  | error failure =>
      refine ⟨[], Nat.zero_le 1, ?_⟩
      rw [List.map_nil, List.append_nil]
      rfl
  | ok returned =>
      obtain ⟨result, lines, atMost, settles⟩ :=
        printsAtMostOnce_settle command world returned
      refine ⟨lines, atMost, ?_⟩
      have returns : ((command.handle world sender bound redirect).observe earlier).result =
          .ok returned := returns
      have settled : ((command.settle world returned).run []).result = result :=
        congrArg (·.result) (settles [])
      simp only [settles, List.append_nil]
      change _ = Observation.mk ⟨((command.settle world returned).run []).result, _⟩ _
      rw [settled]

/-! ### Calls -/

/-- The calls of a command are those of its handler. -/
theorem exchanges_perform (command : Command) (world : World) (sender : Option String)
    (bound : Bound) (redirect : Option String → Play Returned) (earlier : List Request) :
    (command.perform world sender bound redirect).exchanges earlier =
      (command.handle world sender bound redirect).exchanges earlier := by
  obtain ⟨lines, -, observed⟩ := observe_perform command world sender bound redirect earlier
  exact congrArg (·.exchanges) observed

end Command
end Playbook
