import Playbook.Command.Parameter
import Playbook.Play
import Playbook.Text.Lines

/-! # Commands

A command has a name, parameters and a handler. Its kind says what the handler may do: a mutating
command makes a world with exactly one new action, a view gives a value and changes nothing, a
delegate leaves the action to the statement that it runs in turn.
-/

namespace Playbook

/-- What the parameters of a command are bound to, in the order of declaration. -/
abbrev Bound := Table Datum

/-- What a handler returns. -/
inductive Returned where
  | world (world : World)
  | datum (datum : Datum)

/-- The name of the type of what a handler returns. -/
def Returned.typeName : Returned → String
  | world _ => "World"
  | datum content => content.typeName

/-- The kinds of commands. -/
inductive CommandKind where
  | mutating
  | view
  | delegate
deriving DecidableEq, Repr

namespace CommandKind

/-- The name of a kind. -/
def name : CommandKind → String
  | mutating => "mutating"
  | view => "view"
  | delegate => "delegate"

/-- The name of the type of the commands of a kind. -/
def typeName : CommandKind → String
  | mutating => "Command"
  | view => "View"
  | delegate => "Delegate"

end CommandKind

/-- What a command does once its parameters are bound. -/
inductive Handler where
  /-- Makes a world with one new action, for the account that sends. -/
  | mutating (play : World → Option String → Bound → Play Returned)
  /-- Gives a value, in a world that is read only. -/
  | view (play : World → Bound → Play Returned)
  /-- Makes a world. -/
  | delegate (play : World → Option String → Bound → Play Returned)
  /-- Has the statement that follows the first argument run for the account given by the arguments.
  -/
  | redirect (account : Bound → Option String)

/-- The kind of command that a handler belongs to. -/
def Handler.kind : Handler → CommandKind
  | mutating _ => .mutating
  | view _ => .view
  | delegate _ | redirect _ => .delegate

/-- A command: its parameters have different names, and only the last may be variadic. -/
structure Command where
  name : String
  parameters : List Parameter
  handler : Handler
  doc : String := ""
  wellFormed : firstMisfit? name [] parameters = none

namespace Command

/-- Declares a command. -/
def declare (name : String) (parameters : List Parameter) (handler : Handler) (doc : String) :
    Except Misdeclaration Command :=
  match wellFormed : firstMisfit? name [] parameters with
  | none => .ok { name, parameters, handler, doc := Text.cleanDoc doc, wellFormed }
  | some fault => .error fault

/-- The kind of a command. -/
def kind (command : Command) : CommandKind := command.handler.kind

/-- A command as a message names it. -/
def describe (command : Command) : String :=
  "<" ++ command.kind.typeName ++ " " ++ command.name ++ ">"

/-- Whether a token names a command. -/
def isNamed (command : Command) (token : String) : Bool :=
  Text.lower command.name == Text.lower token

end Command

namespace Bound

/-- The text of an argument that is an address or a string; other arguments have none. -/
def text? (bound : Bound) (name : String) : Option String :=
  match bound.get? name with
  | some (.value (.address text)) | some (.value (.string text)) => some text
  | _ => none

/-- The text of an argument, empty where there is none. -/
def text (bound : Bound) (name : String) : String := (bound.text? name).getD ""

/-- The number of an argument with its scale, zero where there is none. -/
def number (bound : Bound) (name : String) : Decimal × Int :=
  match bound.get? name with
  | some (.value (.number val scale)) => (val, scale)
  | _ => (⟨false, 0, 0⟩, 0)

/-- The number of an argument, if there is one. -/
def number? (bound : Bound) (name : String) : Option Decimal :=
  match bound.get? name with
  | some (.value (.number val _)) => some val
  | _ => none

/-- The events of an argument that is a group. -/
def events (bound : Bound) (name : String) : List Event :=
  match bound.get? name with
  | some (.value (.event (.group items))) => items
  | _ => []

/-- The contract of an argument; a contract without name or address where there is none. -/
def contract (bound : Bound) (name : String) : Contract :=
  match bound.get? name with
  | some (.contract handle) => handle
  | _ => ⟨"", "", "", none⟩

end Bound
end Playbook
