import Playbook.Command.Dispatch

/-! # Registry of subsystems

A subsystem is a scripted resource with a table of commands. Subsystems and the commands of a table
are told apart by their names in lower case; a registration that would make two of them equal is
refused.
-/

namespace Playbook

/-- A named resource and its commands. -/
structure Subsystem where
  name : String
  commands : List Command
  description : Option String := none

namespace Subsystem

/-- The name under which a subsystem is found. -/
def key (subsystem : Subsystem) : String := Text.lower subsystem.name

/-- The commands under the name of the subsystem. -/
def table (subsystem : Subsystem) : CommandTable := ⟨some subsystem.name, subsystem.commands⟩

/-- The names in lower case that several commands share, in order. -/
def sharedNames (subsystem : Subsystem) : List String :=
  let names := subsystem.commands.map fun command => Text.lower command.name
  (names.filter fun name => 1 < names.count name).eraseDups.mergeSort fun left right =>
    decide (left ≤ right)

end Subsystem

/-- The registered subsystems in order of registration. -/
structure Registry where
  entries : List Subsystem := []

namespace Registry

/-- The subsystem of a name. -/
def get? (registry : Registry) (name : String) : Option Subsystem :=
  registry.entries.find? (·.key == Text.lower name)

/-- Whether a name is that of a subsystem. -/
def contains (registry : Registry) (name : String) : Bool := (registry.get? name).isSome

/-- The subsystem of a name, or the error that there is none. -/
def get (registry : Registry) (name : String) : Except Cause Subsystem :=
  (registry.get? name).elim (.error (.unknownSubsystem name)) .ok

/-- Has a subsystem registered in a registry that is written to, after all checks. -/
def registering (subsystem : Subsystem) : ExceptT Misdeclaration (StateM Registry) Unit := do
  let registry ← MonadState.get
  if registry.contains subsystem.name then throw (.registeredTwice subsystem.name)
  unless subsystem.sharedNames.isEmpty do
    throw (.duplicateCommands subsystem.name subsystem.sharedNames)
  set (Registry.mk (registry.entries ++ [subsystem]))

/-- The refusal of a registration, if there is one, and the registry after it. -/
def attempt (registry : Registry) (subsystem : Subsystem) : Except Misdeclaration Unit × Registry :=
  (registering subsystem).run.run registry

/-- Registers a subsystem. -/
def register (registry : Registry) (subsystem : Subsystem) : Except Misdeclaration Registry :=
  let (accepted, next) := registry.attempt subsystem
  accepted.map fun () => next

/-- The subsystems in the order of their names in lower case. -/
def sorted (registry : Registry) : List Subsystem :=
  registry.entries.mergeSort fun left right => decide (left.key ≤ right.key)

/-- The registry of a list of subsystems. -/
def ofList (subsystems : List Subsystem) : Except Misdeclaration Registry :=
  subsystems.foldlM register {}

end Registry
end Playbook
