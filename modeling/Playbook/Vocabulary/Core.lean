import Playbook.Command.Dispatch

/-! # Core commands

The commands that every script has without naming a subsystem: From runs a statement for another
account, Print prints a message, and History prints the log of actions.
-/

namespace Playbook.Core

/-- The statement after the account of From: it may be written as one group or as it stands. -/
def redirected : List Event → List Event
  | [.group items] => items
  | items => items

/-- Runs a statement for another account. -/
def fromCommand : Command where
  name := "From"
  parameters := [.required "account" Coerce.address, .remainder "event" Coerce.event]
  handler := .redirect (·.text? "account")
  doc := "#### From\n\n" ++
    "* \"From <Account> <Event>\" - Runs the event with the given account as sender\n" ++
    "  * E.g. \"From Geoff (PriceOracle SetPrice sZRX 1.0)\""
  wellFormed := rfl

/-- A message with every token as it stands and every group as it is written. -/
def message (items : List Event) : String :=
  " ".intercalate <| items.map fun
    | .atom token _ => token
    | item => item.render

/-- Prints a message. -/
def printCommand : Command where
  name := "Print"
  parameters := [.remainder "message" Coerce.event]
  handler := .view fun _ bound =>
    .print (message (bound.events "message")) (.done (.datum (.value .nothing)))
  doc := "#### Print\n\n* \"Print <Message...>\" - Prints a message to the output\n" ++
    "  * E.g. \"Print \"Hello world\"\""
  wellFormed := rfl

/-- The lines of a log, or of its last actions if a number of them is asked for. -/
def history (actions : List Action) (count : Option Nat) : List String :=
  let shown := match count with
    | none => actions
    | some count => actions.drop (actions.length - count)
  if shown.isEmpty then ["No actions recorded."] else Printer.actions shown

/-- Prints the log of actions. -/
def historyCommand : Command where
  name := "History"
  parameters := [.nullable "count" Coerce.count]
  handler := .view fun world bound => do
    Play.printLines (history world.actions ((bound.number? "count").map (·.truncate)))
    return .datum (.value .nothing)
  doc := "#### History\n\n" ++
    "* \"History [Count]\" - Prints the recorded actions, optionally only the last Count\n" ++
    "  * E.g. \"History 5\""
  wellFormed := rfl

/-- The table of core commands. -/
def table : CommandTable := ⟨none, [fromCommand, printCommand, historyCommand]⟩

end Playbook.Core
