import Playbook.Coercion

/-! # Parameters

A command declares its parameters with modifiers. A declaration is checked once; a checked parameter
says how it takes its argument: from the world without input, from one event with something to fall
back on, or from all events that remain.
-/

namespace Playbook

/-- What a parameter is bound to when no event remains for it. -/
inductive Fallback where
  /-- An event is required. -/
  | required
  /-- Nothing is bound. -/
  | null
  /-- A default is bound. -/
  | default (value : Value)
deriving Repr

/-- How a parameter takes its argument. -/
inductive Intake where
  /-- The world alone gives the argument. -/
  | implicit
  /-- One event is read. -/
  | single (fallback : Fallback)
  /-- All remaining events are read together, as a group. -/
  | remainder
  /-- All remaining events are read one by one, into a list. -/
  | each
deriving Repr

/-- Whether a parameter takes all remaining events. -/
def Intake.isVariadic : Intake → Bool
  | remainder | each => true
  | _ => false

/-- A checked parameter. -/
structure Parameter where
  name : String
  coercion : Coercion
  intake : Intake

/-- A parameter as it is declared. -/
structure ParameterDraft where
  name : String
  coercion : Coercion
  variadic : Bool := false
  implicit : Bool := false
  nullable : Bool := false
  mapped : Bool := false
  default : Option Datum := none

namespace ParameterDraft

/-- How a single event is fallen back on; a default goes before null. -/
def fallback? (draft : ParameterDraft) : Option Fallback :=
  match draft.default with
  | none => some (if draft.nullable then .null else .required)
  | some (.value value) => some (.default value)
  | some _ => none

/-- Checks a declaration. -/
def check (draft : ParameterDraft) : Except Misdeclaration Parameter :=
  if draft.implicit && (draft.variadic || draft.default.isSome || draft.nullable) then
    .error (.implicitWithModifiers draft.name)
  else if draft.mapped && !draft.variadic then .error (.mappedNotVariadic draft.name)
  else match draft.fallback? with
    | none => .error (.defaultNotValue draft.name)
    | some fallback =>
      .ok { name := draft.name
            coercion := draft.coercion
            intake :=
              if draft.implicit then .implicit
              else if draft.mapped then .each
              else if draft.variadic then .remainder
              else .single fallback }

end ParameterDraft

namespace Parameter

/-- A parameter that takes nothing from the input. -/
def implicit (name : String) (coercion : Coercion) : Parameter := ⟨name, coercion, .implicit⟩

/-- A parameter that requires an event. -/
def required (name : String) (coercion : Coercion) : Parameter :=
  ⟨name, coercion, .single .required⟩

/-- A parameter that may be left out. -/
def nullable (name : String) (coercion : Coercion) : Parameter := ⟨name, coercion, .single .null⟩

/-- A parameter with a default. -/
def defaulted (name : String) (coercion : Coercion) (value : Value) : Parameter :=
  ⟨name, coercion, .single (.default value)⟩

/-- A parameter that takes the remaining events as a group. -/
def remainder (name : String) (coercion : Coercion) : Parameter := ⟨name, coercion, .remainder⟩

end Parameter

/-- The first fault of a parameter list of which the names `seen` have been read: a name that occurs
twice, or a variadic parameter before the end. -/
def firstMisfit? (command : String) (seen : List String) : List Parameter → Option Misdeclaration
  | [] => none
  | parameter :: rest =>
    if parameter.name ∈ seen then some (.duplicateParameter command parameter.name)
    else if parameter.intake.isVariadic && !rest.isEmpty then
      some (.variadicNotLast command parameter.name)
    else firstMisfit? command (parameter.name :: seen) rest

/-- A parameter list has no fault when its names differ, from each other and from those seen, and
only its last parameter is variadic. -/
theorem firstMisfit?_eq_none_iff {command : String} {seen : List String}
    {parameters : List Parameter} :
    firstMisfit? command seen parameters = none ↔
      (parameters.map (·.name)).Nodup ∧ (∀ parameter ∈ parameters, parameter.name ∉ seen) ∧
        ∀ parameter ∈ parameters.dropLast, parameter.intake.isVariadic = false := by
  induction parameters generalizing seen with
  | nil => simp [firstMisfit?]
  | cons parameter rest ih =>
    by_cases known : parameter.name ∈ seen
    · simp [firstMisfit?, known]
    · cases rest with
      | nil => simp [firstMisfit?, known]
      | cons next others =>
        cases variadic : parameter.intake.isVariadic with
        | true => simp [firstMisfit?, known, variadic]
        | false =>
          rw [firstMisfit?, if_neg known, variadic]
          simp only [Bool.false_and, Bool.false_eq_true, ↓reduceIte, ih]
          simp only [List.map_cons, List.nodup_cons, List.mem_cons, List.dropLast_cons_cons,
            List.mem_map, not_or, forall_eq_or_imp, variadic, known, not_false_eq_true, true_and]
          grind

end Playbook
