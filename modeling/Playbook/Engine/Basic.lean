import Playbook.Script.Parser
import Playbook.Vocabulary.Core
import Playbook.Vocabulary.PriceOracle

/-! # The engine

The engine runs statements. A statement whose head names a subsystem goes to the table of the
subsystem, without its head; one whose head names a core command goes to the core table. From has
the statement after its account run in turn, for that account. Statements of a script run in order,
each in the world that the one before it has made; the first failure ends the run. However deep
groups and From lie in each other, a run has room for them on the stack.
-/

namespace Playbook

/-- An engine with registered subsystems beside the core commands, which every engine has. -/
structure Engine where
  registry : Registry := {}

/-- The table that a statement goes to, and what of the statement is for the table. -/
structure Route where
  table : CommandTable
  rest : Statement

/-- A statement that has been routed and bound, but not run. -/
structure BoundCommand where
  subsystem : Option String
  command : Command
  bound : Bound

namespace Engine

/-- The engine with given subsystems. -/
def ofSubsystems (subsystems : List Subsystem) : Except Misdeclaration Engine :=
  Engine.mk <$> Registry.ofList subsystems

/-- The engine with the subsystems that every script can count on. -/
def standard : Engine := ⟨⟨[PriceOracle.subsystem]⟩⟩

/-- Registers one more subsystem. -/
def register (engine : Engine) (subsystem : Subsystem) : Except Misdeclaration Engine :=
  Engine.mk <$> engine.registry.register subsystem

/-- The table for a statement. -/
def route (engine : Engine) (statement : Statement) : Except ScriptError Route :=
  match statement.items with
  | [] =>
    let line := match statement.line with
      | none | some 0 => 1
      | some line => line
    .error (Cause.malformed ⟨.emptyStatement, ⟨line, 1⟩⟩).error
  | .atom token _ :: rest =>
    match engine.registry.get? token with
    | some subsystem => .ok ⟨subsystem.table, ⟨rest, statement.line⟩⟩
    | none =>
      if Core.table.commands.any (·.isNamed token) then .ok ⟨Core.table, statement⟩
      else .error ((Cause.unknownSubsystem token).error.annotate { line := statement.line })
  | .group items :: _ =>
    .error ((Cause.unknownSubsystem (Event.group items).render).error.annotate
      { line := statement.line })

/-- What is left of a statement has no more atoms and groups than the statement. -/
theorem size_rest_le {engine : Engine} {statement : Statement} {route : Route}
    (routed : engine.route statement = .ok route) :
    Event.sizeOfItems route.rest.items ≤ Event.sizeOfItems statement.items := by
  unfold Engine.route at routed
  split at routed
  case h_1 => cases routed
  case h_3 => cases routed
  case h_2 token quoted rest items =>
    split at routed
    · cases routed
      simp [items, Event.sizeOfItems]
    · split at routed
      · cases routed
        exact Nat.le_refl _
      · cases routed

end Engine

namespace Event

/-- Items without the first are no larger. -/
theorem sizeOfItems_tail_le (items : List Event) : sizeOfItems items.tail ≤ sizeOfItems items := by
  cases items <;> simp [sizeOfItems]

/-- The items of the statement after From are no larger, whether or not a group is opened. -/
theorem sizeOfItems_redirected_le (items : List Event) :
    sizeOfItems (Core.redirected items) ≤ sizeOfItems items := by
  unfold Core.redirected
  split
  · simp [sizeOfItems, size]
  · exact Nat.le_refl _

/-- The statement after the first argument is smaller than the whole. -/
theorem sizeOfItems_redirected_lt {items : List Event} (nonempty : items ≠ []) :
    sizeOfItems (Core.redirected items.tail.tail) < sizeOfItems items := by
  obtain ⟨head, rest, rfl⟩ := List.exists_cons_of_ne_nil nonempty
  have := sizeOfItems_redirected_le rest.tail
  have := sizeOfItems_tail_le rest
  have := head.size_pos
  simp only [List.tail_cons, sizeOfItems]
  omega

end Event

namespace Engine

/-- Runs a statement for a sender. -/
def process (engine : Engine) (world : World) (statement : Statement) (sender : Option String) :
    Play World :=
  match _routed : engine.route statement with
  | .error error => .fail (.script error)
  | .ok route => do
    Play.printLines (world.printer.log statement.text .debug)
    route.table.run world route.rest sender fun account =>
      if _nonempty : route.rest.items ≠ [] then
        Returned.world <$>
          engine.process world ⟨Core.redirected route.rest.items.tail.tail, statement.line⟩ account
      else .done (.datum .absent)
termination_by Event.sizeOfItems statement.items
decreasing_by
  exact Nat.lt_of_lt_of_le (Event.sizeOfItems_redirected_lt _nonempty) (size_rest_le _routed)

/-- Routes and binds a statement without running it. -/
def bindStatement (engine : Engine) (world : World) (statement : Statement) :
    Except Failure BoundCommand := do
  let route ← (engine.route statement).mapError .script
  let table := route.table
  let place : Context := { subsystem := table.subsystem, line := statement.line }
  let command ← annotateResult place ((table.find route.rest).mapError .ofCause)
  let bound ← annotateResult { place with command := some command.name }
    (command.bind world route.rest.items.tail)
  return ⟨table.subsystem, command, bound⟩

/-- Runs the one statement of a text; a text without any changes nothing. -/
def processText (engine : Engine) (world : World) (text : String) (sender : Option String) :
    Play World :=
  match Script.parseStatement text with
  | .error fault => .refuse (.malformed fault)
  | .ok statement =>
    if statement.items.isEmpty then .done world else engine.process world statement sender

/-- Runs statements in order. -/
def processAll (engine : Engine) (world : World) (sender : Option String) :
    List Statement → Play World
  | [] => .done world
  | statement :: statements => do
    let next ← engine.process world statement sender
    engine.processAll next sender statements

/-- Runs all statements of a script. -/
def runScript (engine : Engine) (world : World) (text : String) (sender : Option String) :
    Play World :=
  match Script.parse text with
  | .error fault => .refuse (.malformed fault)
  | .ok statements => engine.processAll world sender statements

end Engine
end Playbook
