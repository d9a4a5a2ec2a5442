import Playbook.Engine.Basic

/-! # Documentation of commands

The usage of a command is one line: the subsystem, the name and the parameters that are written in
scripts. The reference of an engine has a section for the core commands and one for each subsystem,
with the usage and the documentation of every command.
-/

namespace Playbook

/-- A parameter in the usage of its command; implicit parameters are not written. -/
def Parameter.usage? (parameter : Parameter) : Except Decimal.Signal (Option String) :=
  match parameter.intake with
  | .implicit => .ok none
  | .remainder | .each => .ok (some ("..." ++ parameter.name))
  | .single (.default value) =>
    value.render.map fun shown => some ("[" ++ parameter.name ++ "=" ++ shown ++ "]")
  | .single .null => .ok (some ("[" ++ parameter.name ++ "]"))
  | .single .required => .ok (some ("<" ++ parameter.name ++ ">"))

/-- The usage of a command, after the name of its subsystem if that is given and not empty. -/
def Command.usage (command : Command) (subsystem : Option String) :
    Except Decimal.Signal String := do
  let parameters ← command.parameters.mapM (·.usage?)
  let first := (subsystem.filter (!·.isEmpty)).toList
  return " ".intercalate (first ++ command.name :: parameters.filterMap id)

/-- A section of the reference: its title, a description, and commands whose usage starts with the
name of a subsystem, if that is given. -/
structure Section where
  title : String
  description : Option String
  commands : List Command

namespace Section

/-- The name that the usage of the commands starts with; the core commands have none. -/
def subsystem? (part : Section) : Option String :=
  if part.title = "Core" then none else some part.title

/-- The section of a subsystem. -/
def ofSubsystem (subsystem : Subsystem) : Section :=
  ⟨subsystem.name, subsystem.description, subsystem.commands⟩

/-- The section of the core commands. -/
def core : Section := ⟨"Core", none, Core.table.commands⟩

/-- The usage line of a command, indented, with its kind. -/
def usageLine (part : Section) (command : Command) : Except Decimal.Signal String :=
  (command.usage part.subsystem?).map fun usage =>
    "    " ++ usage ++ "  (" ++ command.kind.name ++ ")"

/-- The lines about a command. -/
def commandLines (part : Section) (command : Command) : Except Decimal.Signal (List String) := do
  let usage ← part.usageLine command
  let doc := if command.doc.isEmpty then [] else "" :: Text.lines command.doc
  return "" :: usage :: doc

/-- The lines of a section; the last one is empty. -/
def lines (part : Section) : Except Decimal.Signal (List String) := do
  let described := (part.description.filter (!·.isEmpty)).toList.flatMap fun text => ["", text]
  let commands ← part.commands.mapM part.commandLines
  return ("## " ++ part.title) :: described ++ commands.flatten ++ [""]

end Section

namespace Engine

/-- The sections of the whole reference. -/
def sections (engine : Engine) : List Section :=
  Section.core :: engine.registry.sorted.map Section.ofSubsystem

/-- The lines of the reference of all commands. -/
def reference (engine : Engine) : Except Decimal.Signal (List String) :=
  List.flatten <$> engine.sections.mapM (·.lines)

/-- The lines of the reference, for one subsystem if a name is given. -/
def help (engine : Engine) (subsystem : Option String) : Except Failure (List String) :=
  match subsystem with
  | none => engine.reference.mapError .arithmetic
  | some name => do
    let subsystem ← (engine.registry.get name).mapError .ofCause
    (Section.ofSubsystem subsystem).lines.mapError .arithmetic

end Engine
end Playbook
