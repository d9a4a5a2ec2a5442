import Playbook.Text.Lines

/-! # File paths

A path is written with slashes. Empty parts and parts that name the directory itself make no
difference and are dropped; parts that go up are kept. A path that starts with a slash is absolute;
two slashes at the start, and no more, are kept as they are.
-/

namespace Playbook

/-- A path: the slashes at its start and the parts that matter. -/
structure FilePath where
  root : String
  parts : List String
deriving DecidableEq, Repr

namespace FilePath

/-- The slashes that are kept at the start of a path. -/
def rootOf (text : List Char) : String :=
  match (text.takeWhile (· = '/')).length with
  | 0 => ""
  | 2 => "//"
  | _ => "/"

/-- The path that a text names. -/
def ofString (text : String) : FilePath where
  root := rootOf text.toList
  parts := ((Text.splitAt '/' text.toList).map String.ofList).filter fun part =>
    part ≠ "" && part ≠ "."

/-- The path as it is written; the directory itself is a point. -/
def toString (path : FilePath) : String :=
  let text := path.root ++ "/".intercalate path.parts
  if text.isEmpty then "." else text

/-- A path further down from a directory. -/
def join (path : FilePath) (parts : List String) : FilePath :=
  { path with parts := path.parts ++ parts }

end FilePath
end Playbook
