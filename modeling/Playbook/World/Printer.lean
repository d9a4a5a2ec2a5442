import Playbook.Text.Lines
import Playbook.Value.Printer
import Playbook.World.Record

/-! # Printed lines

All output of a run is made of lines: log messages with a mark for their level, actions, numbered
actions, and values with the name of what gave them. Debug messages are printed in verbose runs
only.
-/

namespace Playbook

/-- How output is printed. -/
structure Printer where
  verbose : Bool := false
  /-- Whether lines are handed to a sink; they go to standard output otherwise. -/
  hasSink : Bool := false
deriving DecidableEq, Repr

/-- The levels of log messages. -/
inductive LogLevel where
  | debug
  | info
  | warn
  | error
deriving DecidableEq, Repr

namespace LogLevel

/-- The level of a name; names that are unknown count as information. -/
def ofName : String → LogLevel
  | "debug" => debug
  | "warn" => warn
  | "error" => error
  | _ => info

/-- The mark of a level. -/
def mark : LogLevel → String
  | debug => "[DEBUG]"
  | info => "[SCENARIO]"
  | warn => "[WARN]"
  | error => "[ERROR]"

end LogLevel

namespace Printer

/-- The lines printed for a log message. -/
def log (printer : Printer) (message : String) (level : LogLevel) : List String :=
  if level = .debug ∧ !printer.verbose then [] else [level.mark ++ " " ++ message]

/-- The line printed for an action. -/
def action (action : Action) : String := "Action: " ++ action.description

/-- The lines printed for a list of actions, numbered from one. -/
def actions (actions : List Action) : List String :=
  actions.zipIdx.map fun (action, index) =>
    Text.alignRight 4 (toString (index + 1)) ++ ". " ++ action.description

/-- The line printed for a value. -/
def value (name : String) (value : Value) : Except Decimal.Signal String :=
  value.render.map fun shown => name ++ ": " ++ shown

/-- Where printed lines have gone. -/
structure Delivery where
  sink : List String
  standardOutput : String
deriving DecidableEq, Repr

/-- Hands lines to the sink, or writes each to standard output with a line break. -/
def deliver (printer : Printer) (lines : List String) : Delivery :=
  if printer.hasSink then ⟨lines, ""⟩ else ⟨[], String.join (lines.map (· ++ "\n"))⟩

end Printer
end Playbook
