import Playbook.Command.Binding
import Playbook.Proofs.Play.Ends

/-! # How binding fails

What is true of the failures of coercions, once the command has been noted, and of the errors that
the binder raises itself, is true of all failures of binding.
-/

namespace Playbook

/-- Kinds of failures that those of the binder belong to: an argument is missing, arguments are left
over, or a list is made of things that are no values. -/
structure CoversBinder (command : String) (fails : Failure → Prop) : Prop where
  caused : ∀ cause argument position,
    fails ((Failure.ofCause cause).annotate { command := some command, argument, position })
  invalid : ∀ fault, fails (.invalid fault)

namespace CoversBinder

variable {command : String} {fails : Failure → Prop} {parameter : Parameter} {world : World}

/-- Reading events one by one fails in no other way than reading each of them. -/
theorem readEach
    (reads : ∀ event position,
      EndsWith (fun _ => True) fails (parameter.read command world event position))
    (position : Nat) (events : List Event) :
    EndsWith (fun _ => True) fails (parameter.readEach command world position events) := by
  induction events generalizing position with
  | nil => trivial
  | cons event events ih =>
      apply (reads (some event) (some position)).bind
      intro datum _
      exact (ih (position + 1)).bind fun _ _ => trivial

/-- Falling back fails in no other way than for want of an argument. -/
theorem fallBack (covers : CoversBinder command fails) (parameter : Parameter) (position : Nat)
    (fallback : Fallback) :
    EndsWith (fun _ => True) fails (parameter.fallBack command position fallback) := by
  cases fallback with
  | default value => trivial
  | null => trivial
  | required => exact covers.caused _ _ _

/-- Taking an argument fails in no other way than reading events or wanting one. -/
theorem take (covers : CoversBinder command fails)
    (reads : ∀ event position,
      EndsWith (fun _ => True) fails (parameter.read command world event position))
    (position : Nat) (events : List Event) :
    EndsWith (fun _ => True) fails (parameter.take command world position events) := by
  unfold Parameter.take
  split
  · exact (reads ..).map fun _ _ => trivial
  · exact (covers.fallBack ..).map fun _ _ => trivial
  · exact (reads ..).map fun _ _ => trivial
  · exact (reads ..).map fun _ _ => trivial
  · apply (readEach reads ..).bind
    intro data _
    cases Value.ofItems data with
    | ok value => trivial
    | error fault => exact covers.invalid fault

/-- So are all failures of binding where those of the coercions are. -/
theorem bindFrom (covers : CoversBinder command fails) {parameters : List Parameter}
    (reads : ∀ parameter ∈ parameters, ∀ event position,
      EndsWith (fun _ => True) fails (parameter.read command world event position))
    (position : Nat) (events : List Event) :
    EndsWith (fun _ => True) fails
      (Playbook.bindFrom command world parameters position events) := by
  induction parameters generalizing position events with
  | nil =>
      cases events with
      | nil => trivial
      | cons event events => exact covers.caused _ _ _
  | cons parameter parameters ih =>
      obtain ⟨first, others⟩ := List.forall_mem_cons.mp reads
      apply (covers.take first position events).bind
      rintro ⟨datum, rest⟩ _
      exact (ih others _ rest).bind fun _ _ => trivial

end CoversBinder
end Playbook
