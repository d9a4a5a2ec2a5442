import Playbook.Decimal.Limits
import Playbook.Error

/-! # Failures

A run fails with an error of the script, with a signal of decimal arithmetic, because something was
to be made a value that is none, or because the stack is exhausted.
-/

namespace Playbook

/-- Why something cannot be made a value. -/
inductive Unfit where
  /-- A number is infinite or no number. -/
  | notFinite
  /-- What was given for a text is of another type. -/
  | notText
  /-- What was given for a truth value is of a type that has none. -/
  | notTruth
  /-- A word or a number was given that stands for no truth value. -/
  | unclearTruth
  /-- What was given for an event is of another type. -/
  | notEvent (typeName : String)
  /-- An item is a contract, whose kind is no kind of value. -/
  | contractItem (kind : String)
  /-- An item is a contract, whose kind happens to be a kind of value, of the named type. -/
  | contractAsValue (typeName : String)
  /-- An item is neither a value nor a contract. -/
  | foreignItem
deriving DecidableEq, Repr

/-- The kinds of values. -/
def valueKinds : List String :=
  ["address", "number", "string", "bool", "nothing", "event", "list", "map"]

/-- The wording of a misfit. -/
def Unfit.message : Unfit → String
  | notFinite => "Input should be a finite number"
  | notText => "Input should be a valid string"
  | notTruth => "Input should be a valid boolean"
  | unclearTruth => "Input should be a valid boolean, unable to interpret input"
  | notEvent typeName => "Value error, expected an Event, got " ++ typeName
  | contractItem kind =>
    "Input tag '" ++ kind ++ "' found using 'kind' does not match any of the expected tags: " ++
      ", ".intercalate (valueKinds.map fun kind => "'" ++ kind ++ "'")
  | contractAsValue typeName => "Input should be a valid dictionary or instance of " ++ typeName
  | foreignItem => "Input should be a valid dictionary or object to extract fields from"

/-- A misfit with the way to it, from the outside in. -/
structure InvalidValue where
  path : List String
  reason : Unfit
deriving DecidableEq, Repr

/-- The place of a misfit and its wording. -/
def InvalidValue.message (invalid : InvalidValue) : String :=
  ".".intercalate invalid.path ++ ": " ++ invalid.reason.message

/-- How a run can fail. -/
inductive Failure where
  | script (error : ScriptError)
  | arithmetic (signal : Decimal.Signal)
  | invalid (fault : InvalidValue)
  /-- The stack has no frame left. -/
  | exhausted
deriving DecidableEq, Repr

namespace Failure

/-- The failure that a cause gives rise to. -/
def ofCause (cause : Cause) : Failure := .script cause.error

/-- Fills in context that is not yet known; only errors of scripts carry context. -/
def annotate (notes : Context) : Failure → Failure
  | .script error => .script (error.annotate notes)
  | other => other

end Failure

/-- Fills in the context of a result that failed. -/
def annotateResult {α : Type} (notes : Context) (result : Except Failure α) : Except Failure α :=
  result.mapError (·.annotate notes)

/-- Filling in context changes no result. -/
theorem annotateResult_eq_ok {α : Type} {notes : Context} {result : Except Failure α}
    {content : α} :
    annotateResult notes result = .ok content ↔ result = .ok content := by
  cases result with
  | error failure => exact iff_of_false nofun nofun
  | ok read => exact Iff.rfl

end Playbook
