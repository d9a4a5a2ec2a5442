import Playbook.FileTree
import Playbook.Json.Basic
import Playbook.Text.Quoted

/-! # Surroundings

What a run of the program finds around itself: names given by the environment, the current
directory, and files. Reading a file may break off, which is none of the errors that the program
reports.
-/

namespace Playbook

/-- What breaks off the reading of a file. -/
inductive Breakdown where
  /-- A directory is where a file should be. -/
  | isDirectory (path : String)
  /-- A name is longer than names of files can be. -/
  | nameTooLong (path : String)
  /-- A document is beyond what can be read. -/
  | beyondLimit (limit : Json.Limit)
deriving DecidableEq, Repr

/-- The wording of a breakdown. -/
def Breakdown.message : Breakdown → String
  | isDirectory path => "[Errno 21] Is a directory: " ++ Text.quote path
  | nameTooLong path => "[Errno 36] File name too long: " ++ Text.quote path
  | beyondLimit limit => limit.message

/-- What the surroundings of a run provide. -/
structure Surroundings where
  /-- The file that the environment names. -/
  worldFile : Option String := none
  /-- The network that the environment names. -/
  network : Option String := none
  /-- The current directory. -/
  directory : FilePath
  /-- What a path leads to. -/
  look : FilePath → Found

/-- A text unless it is missing or empty. -/
def nonempty? (text : Option String) : Option String := text.filter (!·.isEmpty)

/-- The text of a file with uniform line ends, if the file exists. -/
def Surroundings.read? (surroundings : Surroundings) (path : FilePath) :
    Except Breakdown (Option (List Char)) :=
  match surroundings.look path with
  | .nothing => .ok none
  | .file text => .ok (some (Text.unifyLineEnds text.toList))
  | .directory => .error (.isDirectory path.toString)
  | .nameTooLong => .error (.nameTooLong path.toString)

end Playbook
