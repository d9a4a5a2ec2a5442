import Playbook.Engine.Stack
import Playbook.Proofs.Engine.Binder
import Playbook.Proofs.Engine.Exchanges
import Playbook.Proofs.Engine.ScriptErrors
import Playbook.Proofs.Script.RoundTrip

/-! # Runs that exhaust the stack

With a limited number of frames, a statement runs as it does without a limit, unless it has so many
groups in each other, or From in each other, that the frames do not suffice. Then its run breaks off
before anything is asked for, with a failure that is no error of the script. This module says
exactly when that happens, for every engine, and so how runs of the standard engine can fail.
-/

namespace Playbook

namespace Engine

variable {engine : Engine} {world : World} {statement rest : Statement} {sender : Option String}
  {command : Command} {bound : Bound} {frames : Nat} {earlier : List Request}

/-! ### One step of running a statement -/

/-- Running a statement in a world takes more frames than there are: to write it, or to run the
statement that it redirects to, once it is bound. -/
inductive Exhausts (engine : Engine) (world : World) : (frames : Nat) → Statement → Prop where
  | written {frames : Nat} {statement : Statement}
      (tooDeep : frames < Event.framesToWrite (engine.written statement)) :
      Exhausts engine world frames statement
  | redirected {frames : Nat} {statement rest : Statement} {command : Command} {bound : Bound}
      {account : Bound → Option String} (named : engine.named? statement = some (command, rest))
      (binds : command.bind world rest.items.tail = .ok bound)
      (redirects : command.handler = .redirect account)
      (inner : Exhausts engine world (frames - framesOfRedirection) (redirectedTo statement rest)) :
      Exhausts engine world frames statement

/-- The items of the statement after From lie no deeper, whether or not a group is opened. -/
theorem depthOfItems_redirected_le (items : List Event) :
    Event.depthOfItems (Core.redirected items) ≤ Event.depthOfItems items := by
  unfold Core.redirected
  split
  · simp only [Event.depthOfItems, Event.depth]
    omega
  · exact Nat.le_refl _

/-- Items without the first lie no deeper. -/
theorem depthOfItems_tail_le (items : List Event) :
    Event.depthOfItems items.tail ≤ Event.depthOfItems items := by
  cases items with
  | nil => exact Nat.le_refl _
  | cons item items => exact Nat.le_max_right _ _

/-- What is written of a statement lies no deeper than the statement. -/
theorem depthOfItems_written_le (engine : Engine) (statement : Statement) :
    Event.depthOfItems (engine.written statement) ≤ Event.depthOfItems statement.items := by
  unfold written
  split
  · exact Nat.le_refl _
  next same =>
    rw [same]
    simp only [Event.depthOfItems]
    omega
  · exact Nat.zero_le _

/-- What is left of a statement for its table lies no deeper than the statement. -/
theorem depthOfItems_rest_le {route : Route} (routed : engine.route statement = .ok route) :
    Event.depthOfItems route.rest.items ≤ Event.depthOfItems statement.items := by
  unfold Engine.route at routed
  split at routed
  case h_1 => cases routed
  case h_3 => cases routed
  case h_2 token quoted rest items =>
    split at routed
    · cases routed
      exact items ▸ Nat.le_max_right _ _
    · split at routed
      · cases routed
        exact Nat.le_refl _
      · cases routed

/-- The statement that From has run lies no deeper. -/
theorem depthOfItems_redirectedTo_le (named : engine.named? statement = some (command, rest)) :
    Event.depthOfItems (redirectedTo statement rest).items ≤
      Event.depthOfItems statement.items := by
  obtain ⟨route, routed, rfl, -⟩ := named?_eq_some_iff.mp named
  calc Event.depthOfItems (Core.redirected route.rest.items.tail.tail)
      ≤ Event.depthOfItems route.rest.items.tail.tail := depthOfItems_redirected_le _
    _ ≤ Event.depthOfItems route.rest.items.tail := depthOfItems_tail_le _
    _ ≤ Event.depthOfItems route.rest.items := depthOfItems_tail_le _
    _ ≤ Event.depthOfItems statement.items := depthOfItems_rest_le routed

/-- The frames suffice for any statement that is small for them: four for every atom and group,
since any of them may be a From, and three for every group that lies in others. -/
theorem not_exhausts_of_size
    (small : framesOfRedirection * Event.sizeOfItems statement.items +
      Event.framesToWrite statement.items ≤ frames) : ¬engine.Exhausts world frames statement := by
  intro exhausts
  induction exhausts with
  | @written frames statement tooDeep =>
      have depth := depthOfItems_written_le engine statement
      simp only [Event.framesToWrite] at small tooDeep
      omega
  | @redirected frames statement rest command bound account named binds redirects inner ih =>
      have size := size_redirectedTo_lt named
      have depth := depthOfItems_redirectedTo_le named
      apply ih
      simp only [Event.framesToWrite, framesOfRedirection] at small ⊢
      omega

/-! ### Runs -/

end Engine
end Playbook
