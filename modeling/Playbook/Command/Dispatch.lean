import Playbook.Command.Binding

/-! # Dispatch

A statement names a command of a table, whatever the case. The command is bound to the rest of the
statement and carried out under the rules of its kind. An error on the way is marked with the
subsystem, the command and the line.
-/

namespace Playbook

/-- A table of commands, under the name of its subsystem unless it is the core table. -/
structure CommandTable where
  subsystem : Option String
  commands : List Command

/-- The command that a statement names. -/
def CommandTable.find (table : CommandTable) (statement : Statement) : Except Cause Command :=
  match statement.items with
  | [] =>
    let line := match statement.line with
      | none | some 0 => 1
      | some line => line
    .error (.malformed ⟨.missingCommand table.subsystem, ⟨line, 1⟩⟩)
  | .group items :: _ => .error (.unknownCommand (Event.group items).render table.subsystem)
  | .atom token _ :: _ =>
    match table.commands.find? (·.isNamed token) with
    | some command => .ok command
    | none => .error (.unknownCommand token table.subsystem)

namespace Command

/-- The world that a handler returned; anything else is refused. -/
def expectWorld (command : Command) : Returned → Play World
  | .world world => .done world
  | .datum datum => .refuse (.handler (.notWorld command.name datum.typeName))

/-- The value that a view returned; anything else is refused. -/
def expectValue (command : Command) : Returned → Play Value
  | .datum (.value value) => .done value
  | .datum datum => .refuse (.handler (.viewOfNothing command.name datum.typeName))
  | .world _ => .refuse (.handler (.viewOfWorld command.name))

/-- Whether a log has been continued by exactly one action, and which one. -/
def newAction? (before after : List Action) : Option Action :=
  match after.drop before.length with
  | [action] => if after.take before.length = before then some action else none
  | _ => none

/-- Prints the one new action of a mutating command and goes on with its world; a log that was
changed in any other way is refused. -/
def conclude (command : Command) (before after : World) : Play World :=
  match newAction? before.actions after.actions with
  | some action => .print (Printer.action action) (.done after)
  | none =>
    .refuse (.handler (.notOneAction command.name (after.actions.length - before.actions.length)))

/-- Prints the value of a view, unless it is nothing. -/
def announce (command : Command) : Value → Play Unit
  | .nothing => .done ()
  | value =>
    match Printer.value command.name value with
    | .ok line => .print line (.done ())
    | .error signal => .fail (.arithmetic signal)

/-- Carries out a command that is bound; `redirect` runs the statement after the first argument. -/
def perform (command : Command) (world : World) (sender : Option String) (bound : Bound)
    (redirect : Option String → Play Returned) : Play World :=
  match command.handler with
  | .mutating play => do
    let after ← play world sender bound >>= command.expectWorld
    command.conclude world after
  | .view play => do
    let value ← play world.asReadOnly bound >>= command.expectValue
    command.announce value
    return world
  | .delegate play => play world sender bound >>= command.expectWorld
  | .redirect account => redirect (account bound) >>= command.expectWorld

end Command

/-- Runs a statement of a table: finds the command, binds it and carries it out. -/
def CommandTable.run (table : CommandTable) (world : World) (statement : Statement)
    (sender : Option String) (redirect : Option String → Play Returned) : Play World :=
  match table.find statement with
  | .error cause =>
    .fail ((Failure.ofCause cause).annotate
      { subsystem := table.subsystem, line := statement.line })
  | .ok command =>
    Play.annotate
      { subsystem := table.subsystem, command := some command.name, line := statement.line } do
        let bound ← Play.ofResult (command.bind world statement.items.tail)
        command.perform world sender bound redirect

/-- The value of a statement that names a view of a table. -/
def CommandTable.evaluate (table : CommandTable) (world : World) (statement : Statement) :
    Play Value :=
  Play.annotate { subsystem := table.subsystem, line := statement.line } do
    let command ← Play.ofResult ((table.find statement).mapError .ofCause)
    match command.handler with
    | .view play =>
      let bound ← Play.ofResult (command.bind world statement.items.tail)
      play world.asReadOnly bound >>= command.expectValue
    | _ => .refuse (.handler (.notView command.name))

end Playbook
