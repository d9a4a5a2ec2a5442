import Playbook.CommandLine.Arguments
import Playbook.Configuration
import Playbook.Help

/-! # Tasks of the command line

Each task is carried out on what the surroundings provide, and gives an exit status and what is
written to standard output and to standard error. No task runs a script. As in the engine, however
deep groups lie in each other, there is room for them on the stack.
-/

namespace Playbook.CommandLine

/-- What a task writes and the status it ends with. -/
structure Report where
  status : Nat
  output : List String := []
  errors : List String := []
deriving DecidableEq, Repr

/-- What became of a command line. -/
inductive Ending where
  /-- The command line was refused; the status tells help from bad usage. -/
  | refused (status : Nat)
  | reported (report : Report)
  /-- The reading of a file broke off, before anything was written. -/
  | brokenOff (breakdown : Breakdown)
deriving DecidableEq, Repr

/-- The status of a refusal. -/
def Refusal.status : Refusal → Nat
  | helpWanted => 0
  | badUsage => 2

/-- A failure on one line. -/
def failureLine : Failure → String
  | .script error => error.message
  | .arithmetic signal => signal.name
  | .invalid fault => fault.message
  | .exhausted => "maximum recursion depth exceeded"

/-- The report of a task that a failure has ended. -/
def Report.ofFailure (failure : Failure) : Report :=
  { status := 1, errors := ["✗ " ++ failureLine failure] }

/-- The line of a statement, moved to the right. -/
def lineNumber (statement : Statement) : String :=
  Text.alignRight 4 ((statement.line.map toString).getD "None")

/-- Goes on with the statements of a script file; the report says what is wrong with it otherwise.
-/
def withStatements (surroundings : Surroundings) (script : String)
    (next : List Statement → Report) : Except Breakdown Report := do
  match ← surroundings.read? (FilePath.ofString script) with
  | none => return { status := 1, errors := ["✗ Script not found: " ++ script] }
  | some text =>
    match Script.parse (String.ofList text) with
    | .error fault => return .ofFailure (.ofCause (.malformed fault))
    | .ok statements => return next statements

/-- The line about a statement that was bound, or could not be. -/
def checkLine (engine : Engine) (world : World) (statement : Statement) : Bool × String :=
  match engine.bindStatement world statement with
  | .error failure => (false, "✗ " ++ lineNumber statement ++ ": " ++ failureLine failure)
  | .ok bound =>
    let scope := Cause.optional bound.subsystem (· ++ " ")
    (true, "✓ " ++ lineNumber statement ++ ": " ++ scope ++ bound.command.name)

/-- The report on the statements of a script that were to be bound. -/
def checkReport (engine : Engine) (world : World) (statements : List Statement) : Report :=
  let lines := statements.map (checkLine engine world)
  let failed := (lines.filter fun (bound, _) => !bound).length
  let total := toString statements.length
  let verdict :=
    if failed = 0 then "✓ " ++ total ++ " statements bound"
    else "✗ " ++ toString failed ++ " of " ++ total ++ " statements failed to bind"
  { status := if failed = 0 then 0 else 1, output := lines.map (·.2) ++ ["", verdict] }

/-- The report that shows statements. -/
def parseReport (statements : List Statement) : Report where
  status := 0
  output := statements.map fun statement => lineNumber statement ++ ": " ++ statement.render

/-- Carries out a task. -/
def Task.run (surroundings : Surroundings) : Task → Except Breakdown Report
  | parse script => withStatements surroundings script parseReport
  | check script worldFile network =>
    match Configuration.load surroundings (Configuration.path? surroundings worldFile) with
    | .error (.brokenOff breakdown) => .error breakdown
    | .error (.refused fault) => .ok (.ofFailure (.ofCause (.configuration fault)))
    | .ok configuration =>
      let network := configuration.networkFor surroundings network
      withStatements surroundings script
        (checkReport .standard (configuration.world (some network) {}))
  | commands subsystem =>
    match Engine.standard.help subsystem with
    | .error failure => .ok (.ofFailure failure)
    | .ok lines => .ok { status := 0, output := lines }

/-- Carries out a command line. -/
def run (surroundings : Surroundings) (arguments : List String) : Ending :=
  match Task.ofArguments arguments with
  | .error refusal => .refused refusal.status
  | .ok task =>
    match task.run surroundings with
    | .error breakdown => .brokenOff breakdown
    | .ok report => .reported report

/-- The files that a command line may read. -/
def filesOf (surroundings : Surroundings) (arguments : List String) : List FilePath :=
  let named := match Task.ofArguments arguments with
    | .ok (.parse script) => [script]
    | .ok (.check script worldFile _) => script :: worldFile.toList ++ surroundings.worldFile.toList
    | _ => []
  surroundings.directory.join Configuration.defaultParts :: named.map FilePath.ofString

end Playbook.CommandLine
