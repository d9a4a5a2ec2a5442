import Playbook.CommandLine.Run

/-! # The program

The outer layer: it looks up the environment, reads the files that the command line may need, and
writes what the command line gives.
-/

namespace Playbook

/-- What a path leads to. -/
def lookAt (path : FilePath) : IO Found := do
  try
    return .file (← IO.FS.readFile path.toString)
  catch
    | .inappropriateType .. => return .directory
    | .invalidArgument .. => return .nameTooLong
    | _ => return .nothing

/-- The surroundings of the process, with the files a command line may read. -/
def surroundingsOf (arguments : List String) : IO Surroundings := do
  let surroundings : Surroundings := {
    worldFile := ← IO.getEnv "SCENARIO_WORLD"
    network := ← IO.getEnv "SCENARIO_NETWORK"
    directory := FilePath.ofString (← IO.currentDir).toString
    look := fun _ => .nothing }
  let files ← (CommandLine.filesOf surroundings arguments).mapM fun path => do
    return (path, ← lookAt path)
  return { surroundings with look := fun path => (files.lookup path).getD .nothing }

end Playbook

/-- Carries out the command line and ends with its status. -/
def main (arguments : List String) : IO UInt32 := do
  match Playbook.CommandLine.run (← Playbook.surroundingsOf arguments) arguments with
  | .refused status =>
    let usage := "usage: scenario [-h] \x7bparse,check,commands\x7d ..."
    if status = 0 then IO.println usage else IO.eprintln usage
    return status.toUInt32
  | .reported report =>
    report.output.forM IO.println
    report.errors.forM IO.eprintln
    return report.status.toUInt32
  | .brokenOff breakdown =>
    IO.eprintln breakdown.message
    return 1
