import Playbook.Engine.Basic

/-! # Room on the stack

The text of a group is made inside the making of the text around it, what an address tag stands for
is read inside the reading of the tag, and the statement of From is run inside the running of From.
All three take frames of the stack. Here the engine runs with a given number of frames; where they
do not suffice, the run breaks off with a failure that is no error of the script. `Engine.process`
and what is made from it run with as many frames as they need.

The numbers are those of an interpreter that has a thousand frames, to within a few frames. Before a
statement is run, all of it is written, which takes more frames than reading its arguments; so
reading is counted only where a statement is bound without being run.
-/

namespace Playbook

namespace Event

mutual

/-- The number of groups of an event that lie in each other. -/
def depth : Event → Nat
  | .atom .. => 0
  | .group items => depthOfItems items + 1

/-- The number of groups of a sequence that lie in each other. -/
def depthOfItems : List Event → Nat
  | [] => 0
  | item :: items => max item.depth (depthOfItems items)

end

/-- The frames that it takes to write events one after the other. -/
def framesToWrite (items : List Event) : Nat := 3 * depthOfItems items + 6

/-- The frames that it takes to read an event as an address: one for every tag, and those that it
takes to write what the tags stand around, should it be no address. -/
def framesToReadAddress : Event → Nat
  | .group [tag, inner] =>
    if Coerce.isWord "Address" tag then inner.framesToReadAddress + 1
    else framesToWrite [.group [tag, inner]]
  | event => framesToWrite [event]

/-- The frames that it takes to read an event with a result. Addresses are read inside their tags;
any other event that is refused is written in the error. -/
def framesToRead (event : Event) : Except Failure Datum → Nat
  | .ok (.value (.address _)) => event.framesToReadAddress
  | .ok _ => 0
  | .error (.script ⟨.lookup .., _⟩) => event.framesToReadAddress
  | .error (.script ⟨.coercion expected _, _⟩) =>
    if expected = "address" then event.framesToReadAddress else framesToWrite [event]
  | .error _ => 0

end Event

namespace Parameter

/-- The frames that it takes to read events one by one, up to the first that is refused. -/
def framesToReadEach (parameter : Parameter) (world : World) : List Event → Nat
  | [] => 0
  | event :: events =>
    let result := parameter.coercion world (some event)
    let others := match result with
      | .ok _ => parameter.framesToReadEach world events
      | .error _ => 0
    max (event.framesToRead result) others

/-- The frames that it takes to take the argument of a parameter from events. -/
def framesToTake (parameter : Parameter) (world : World) (events : List Event) : Nat :=
  match parameter.intake, events with
  | .implicit, _ | .single _, [] => 0
  | .single _, event :: _ => event.framesToRead (parameter.coercion world (some event))
  | .remainder, _ =>
    (Event.group events).framesToRead (parameter.coercion world (some (.group events)))
  | .each, _ => parameter.framesToReadEach world events

end Parameter

/-- The frames that it takes to bind parameters to events, up to the first argument that is refused.
Events that are left over are written. -/
def framesToBind (command : String) (world : World) : List Parameter → List Event → Nat
  | [], [] => 0
  | [], events => Event.framesToWrite events
  | parameter :: parameters, events =>
    let others := match parameter.take command world 1 events with
      | .ok (_, rest) => framesToBind command world parameters rest
      | .error _ => 0
    max (parameter.framesToTake world events) others

namespace Engine

/-- The frames that the running of From takes besides those of the statement that it has run. -/
def framesOfRedirection : Nat := 4

/-- The frames that are left of a thousand where the program runs a statement. -/
def framesLeft : Nat := 980

/-- The events that are written when a statement is run: all of it if it goes to a table, for the
debug line, and else the group at its head, for the error. -/
def written (engine : Engine) (statement : Statement) : List Event :=
  match engine.route statement, statement.items with
  | .ok _, items => items
  | .error _, .group items :: _ => [.group items]
  | .error _, _ => []

/-- Runs a statement for a sender with a number of frames. -/
def processWithin (engine : Engine) (frames : Nat) (world : World) (statement : Statement)
    (sender : Option String) : Play World :=
  if frames < Event.framesToWrite (engine.written statement) then .fail .exhausted
  else match _routed : engine.route statement with
    | .error error => .fail (.script error)
    | .ok route => do
      Play.printLines (world.printer.log statement.text .debug)
      route.table.run world route.rest sender fun account =>
        if _nonempty : route.rest.items ≠ [] then
          Returned.world <$> engine.processWithin (frames - framesOfRedirection) world
            ⟨Core.redirected route.rest.items.tail.tail, statement.line⟩ account
        else .done (.datum .absent)
termination_by Event.sizeOfItems statement.items
decreasing_by
  exact Nat.lt_of_lt_of_le (Event.sizeOfItems_redirected_lt _nonempty) (size_rest_le _routed)

/-- The frames that it takes to route and bind a statement. A head that names nothing is written. -/
def framesToBindStatement (engine : Engine) (world : World) (statement : Statement) : Nat :=
  match engine.route statement with
  | .error _ => Event.framesToWrite (statement.items.take 1)
  | .ok route =>
    match route.table.find route.rest with
    | .error _ => Event.framesToWrite (route.rest.items.take 1)
    | .ok command => framesToBind command.name world command.parameters route.rest.items.tail

/-- Routes and binds a statement with a number of frames. -/
def bindStatementWithin (engine : Engine) (frames : Nat) (world : World) (statement : Statement) :
    Except Failure BoundCommand :=
  if frames < engine.framesToBindStatement world statement then .error .exhausted
  else engine.bindStatement world statement

/-- Runs the one statement of a text with a number of frames. -/
def processTextWithin (engine : Engine) (frames : Nat) (world : World) (text : String)
    (sender : Option String) : Play World :=
  match Script.parseStatement text with
  | .error fault => .refuse (.malformed fault)
  | .ok statement =>
    if statement.items.isEmpty then .done world
    else engine.processWithin frames world statement sender

/-- Runs statements in order, each with a number of frames. -/
def processAllWithin (engine : Engine) (frames : Nat) (world : World) (sender : Option String) :
    List Statement → Play World
  | [] => .done world
  | statement :: statements => do
    let next ← engine.processWithin frames world statement sender
    engine.processAllWithin frames next sender statements

/-- Runs all statements of a script with a number of frames. -/
def runScriptWithin (engine : Engine) (frames : Nat) (world : World) (text : String)
    (sender : Option String) : Play World :=
  match Script.parse text with
  | .error fault => .refuse (.malformed fault)
  | .ok statements => engine.processAllWithin frames world sender statements

end Engine
end Playbook
