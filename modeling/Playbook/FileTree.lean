import Playbook.FilePath

/-! # Trees of files

A tree holds files and directories, each at its parts from the root. A path is followed part by
part: every part but the last must lead to a directory, and two points lead to the directory above.
A part or a path that is too long is an error of its own, which arises as soon as it is met.
-/

namespace Playbook

/-- What a path leads to. -/
inductive Found where
  | nothing
  | file (text : String)
  | directory
  | nameTooLong
deriving DecidableEq, Repr

/-- The files of a tree, and its directories as far as no file implies them. Where a file is given
more than once, the last text counts. -/
structure FileTree where
  files : List (List String × String)
  directories : List (List String) := []

namespace FileTree

/-- The number of bytes that a part of a path may have. -/
def longestPart : Nat := 255

/-- The number of bytes that a path may have. -/
def longestPath : Nat := 4095

/-- The text of the file at a place. -/
def file? (tree : FileTree) (place : List String) : Option String := tree.files.reverse.lookup place

/-- Whether a directory is at a place: the root is one, and so is whatever holds something. -/
def isDirectory (tree : FileTree) (place : List String) : Bool :=
  place.isEmpty || tree.directories.any place.isPrefixOf ||
    tree.files.any fun (parts, _) => place.isPrefixOf parts && place.length < parts.length

/-- What is found at a place. -/
def at? (tree : FileTree) (place : List String) : Found :=
  if tree.isDirectory place then .directory
  else (tree.file? place).elim .nothing .file

/-- What the parts of a path lead to from a place. -/
def follow (tree : FileTree) (place : List String) : List String → Found
  | [] => tree.at? place
  | part :: parts =>
    if !tree.isDirectory place then .nothing
    else if part = ".." then tree.follow place.dropLast parts
    else if longestPart < part.utf8ByteSize then .nameTooLong
    else tree.follow (place ++ [part]) parts

/-- What a path leads to from a place; a path with a null character leads nowhere. -/
def look (tree : FileTree) (place : List String) (path : FilePath) : Found :=
  let text := path.toString
  if text.toList.contains '\x00' then .nothing
  else if longestPath < text.utf8ByteSize then .nameTooLong
  else tree.follow (if path.root.isEmpty then place else []) path.parts

end FileTree
end Playbook
