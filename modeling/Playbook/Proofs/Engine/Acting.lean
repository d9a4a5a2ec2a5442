import Playbook.Proofs.Engine.Redirection

/-! # The command that acts

Under any chain of From, a statement is either refused, or one command acts in the end with the
arguments to which it is bound. Up to debug lines and the places of errors, running the statement is
to carry out that command.
-/

namespace Playbook.Engine

/-- The command that acts in the end when a statement is run, with its arguments; there is none when
the statement, or one that From has run in it, cannot be bound. -/
def acting? (engine : Engine) (world : World) (statement : Statement) : Option (Command × Bound) :=
  match _named : engine.named? statement with
  | none => none
  | some (command, rest) =>
    match command.bind world rest.items.tail with
    | .error _ => none
    | .ok bound =>
      match command.handler with
      | .redirect _ => engine.acting? world (redirectedTo statement rest)
      | _ => some (command, bound)
termination_by Event.sizeOfItems statement.items
decreasing_by exact size_redirectedTo_lt _named

variable {engine : Engine} {world : World} {statement : Statement} {command : Command}
  {bound : Bound}

/-- What acts is a command of the engine, bound in the same world, that is not a From. -/
theorem acting?_eq_some (acting : engine.acting? world statement = some (command, bound)) :
    (∀ account, command.handler ≠ .redirect account) ∧
      ∃ inner rest, engine.named? inner = some (command, rest) ∧
        command.bind world rest.items.tail = .ok bound := by
  fun_induction engine.acting? world statement with
  | case1 => cases acting
  | case2 => cases acting
  | case3 statement command rest named bound binds account redirects ih => exact ih acting
  | case4 statement command rest named bound binds direct =>
      obtain ⟨rfl, rfl⟩ := Prod.mk.inj (Option.some.inj acting)
      exact ⟨direct, statement, rest, named, binds⟩

/-- A statement in which no command acts is refused without any effect but debug lines. -/
theorem process_of_not_acting (idle : engine.acting? world statement = none)
    (sender : Option String) (earlier : List Request) :
    ∃ failure, ((engine.process world statement sender).observe earlier).AgreesWith world.printer
      ⟨⟨.error failure, []⟩, []⟩ := by
  fun_induction engine.acting? world statement generalizing sender with
  | case1 statement unnamed =>
      obtain ⟨failure, lines, debug, observed⟩ :=
        observe_process_unnamed unnamed world earlier sender
      rw [observed]
      refine ⟨failure, rfl, ⟨lines, (List.append_nil _).symm, ?_⟩, rfl⟩
      intro terse
      rw [Printer.log_debug_of_terse terse] at debug
      exact List.eq_nil_of_subset_nil debug
  | case2 statement command rest named failure fails =>
      obtain ⟨notes, observed⟩ := observe_process_named named world earlier sender
      rw [observed, fails, Play.observe_bind, Play.observe_ofResult, Observation.andThen_error]
      exact ⟨failure, .within _ notes _⟩
  | case3 statement command rest named bound binds account redirects ih =>
      obtain ⟨failure, refused⟩ := ih idle (account bound)
      obtain ⟨notes, observed⟩ := observe_process_redirect named binds redirects earlier sender
      rw [observed]
      exact ⟨failure, (Observation.AgreesWith.within _ notes _).trans refused⟩
  | case4 => cases idle

/-- A statement in which a command acts comes to what this command does. -/
theorem process_of_acting (acting : engine.acting? world statement = some (command, bound))
    (sender : Option String) (earlier : List Request) :
    ∃ account redirect, ((engine.process world statement sender).observe earlier).AgreesWith
      world.printer ((command.perform world account bound redirect).observe earlier) := by
  fun_induction engine.acting? world statement generalizing sender with
  | case1 => cases acting
  | case2 => cases acting
  | case3 statement first rest named arguments binds account redirects ih =>
      obtain ⟨last, redirect, acts⟩ := ih acting (account arguments)
      obtain ⟨notes, observed⟩ := observe_process_redirect named binds redirects earlier sender
      rw [observed]
      exact ⟨last, redirect, (Observation.AgreesWith.within _ notes _).trans acts⟩
  | case4 statement first rest named arguments binds direct =>
      obtain ⟨rfl, rfl⟩ := Prod.mk.inj (Option.some.inj acting)
      obtain ⟨notes, observed⟩ := observe_process_named named world earlier sender
      rw [observed, binds]
      refine ⟨sender, fun account =>
        Returned.world <$> engine.process world (redirectedTo statement rest) account, ?_⟩
      exact .within _ notes _

end Playbook.Engine
