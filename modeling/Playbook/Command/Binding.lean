import Playbook.Command.Basic

/-! # Binding

The parameters of a command are bound from left to right against the events after its name. An
implicit parameter takes no event; a variadic one takes all that remain; any other takes one, or
falls back on what was declared. Events that are left over are refused. Positions count the events
from one.
-/

namespace Playbook

/-- Reads an event for a parameter; a failure is marked with the parameter and the position. -/
def Parameter.read (parameter : Parameter) (command : String) (world : World) (event : Option Event)
    (position : Option Nat) : Except Failure Datum :=
  annotateResult { command := some command, argument := some parameter.name, position }
    (parameter.coercion world event)

/-- Reads events one by one for a parameter, the first at `position`. -/
def Parameter.readEach (parameter : Parameter) (command : String) (world : World) :
    (position : Nat) → List Event → Except Failure (List Datum)
  | _, [] => .ok []
  | position, event :: events => do
    let datum ← parameter.read command world (some event) (some position)
    return datum :: (← parameter.readEach command world (position + 1) events)

/-- What a parameter is bound to when no event is left for it at `position`. -/
def Parameter.fallBack (parameter : Parameter) (command : String) (position : Nat) :
    Fallback → Except Failure Datum
  | .default value => .ok (.value value)
  | .null => .ok .absent
  | .required =>
    annotateResult { command := some command, argument := some parameter.name, position }
      (.error (.ofCause (.missingArgument parameter.name)))

/-- Takes the argument of a parameter from the events at `position` on; gives the rest of the
events. -/
def Parameter.take (parameter : Parameter) (command : String) (world : World) (position : Nat)
    (events : List Event) : Except Failure (Datum × List Event) :=
  match parameter.intake, events with
  | .implicit, _ => (·, events) <$> parameter.read command world none none
  | .single fallback, [] => (·, []) <$> parameter.fallBack command position fallback
  | .single _, event :: rest =>
      (·, rest) <$> parameter.read command world (some event) (some position)
  | .remainder, _ =>
    (·, []) <$> parameter.read command world (some (.group events)) (some position)
  | .each, _ => do
    let data ← parameter.readEach command world position events
    ((.value ·, [])) <$> (Value.ofItems data).mapError .invalid

/-- Binds parameters to the events from `position` on. -/
def bindFrom (command : String) (world : World) : List Parameter → (position : Nat) → List Event →
    Except Failure Bound
  | [], _, [] => .ok []
  | [], position, events =>
    annotateResult { command := some command, position }
      (.error (.ofCause (.extraArguments (events.map (·.render)))))
  | parameter :: parameters, position, events => do
    let (datum, rest) ← parameter.take command world position events
    let bound ← bindFrom command world parameters (position + (events.length - rest.length)) rest
    return (parameter.name, datum) :: bound

/-- Binds the parameters of a command to the events after its name. -/
def Command.bind (command : Command) (world : World) (events : List Event) : Except Failure Bound :=
  bindFrom command.name world command.parameters 1 events

end Playbook
