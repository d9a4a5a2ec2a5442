import Playbook.Text.Characters

/-! # Lines of text

Documentation is written indented and shown line by line without the common indentation. A line
break inside a source is the line feed; a shown text is cut at every line boundary of Unicode.
-/

namespace Playbook.Text

/-- The pieces of a text between the characters `separator`; there is always one. -/
def splitAt (separator : Char) : List Char → List (List Char)
  | [] => [[]]
  | c :: rest =>
    match splitAt separator rest with
    | [] => [[c]]
    | piece :: pieces => if c = separator then [] :: piece :: pieces else (c :: piece) :: pieces

/-- Puts pieces together with a separator between them. -/
def joinWith (separator : List Char) : List (List Char) → List Char
  | [] => []
  | [piece] => piece
  | piece :: pieces => piece ++ separator ++ joinWith separator pieces

/-- Holds of the characters that indent a line. -/
def isIndent (c : Char) : Bool := c = ' ' || c = '\t'

/-- The longest text that both texts start with. -/
def commonStart : List Char → List Char → List Char
  | a :: as, b :: bs => if a = b then a :: commonStart as bs else []
  | _, _ => []

/-- The indentation shared by all lines that hold more than indentation. -/
def commonIndent (lines : List (List Char)) : List Char :=
  match (lines.filter fun line => !line.all isIndent).map (·.takeWhile isIndent) with
  | [] => []
  | first :: others => others.foldl commonStart first

/-- Empties the lines of mere indentation and removes the common indentation from the others. -/
def dedent (text : List Char) : List Char :=
  let lines := splitAt '\n' text
  let width := (commonIndent lines).length
  joinWith ['\n'] (lines.map fun line => if line.all isIndent then [] else line.drop width)

/-- Documentation as it is kept: without common indentation and without blanks at the ends. -/
def cleanDoc (doc : String) : String := String.ofList (strip (dedent doc.toList))

/-- The line boundaries other than a carriage return. -/
def isLineBoundary (c : Char) : Bool :=
  let code := c.toNat
  (0x0a ≤ code && code ≤ 0x0c) || (0x1c ≤ code && code ≤ 0x1e) || code == 0x85 ||
    code == 0x2028 || code == 0x2029

/-- Cuts a text into lines; `line` is the part of the current one read so far, backwards. -/
def linesFrom (line : List Char) : List Char → List (List Char)
  | [] => if line.isEmpty then [] else [line.reverse]
  | '\r' :: '\n' :: rest => line.reverse :: linesFrom [] rest
  | c :: rest =>
    if c = '\r' || isLineBoundary c then line.reverse :: linesFrom [] rest
    else linesFrom (c :: line) rest

/-- The lines of a text; a boundary at its end starts no further line. -/
def lines (text : String) : List String := (linesFrom [] text.toList).map String.ofList

/-- A text moved to the right of a field of `width` characters; a longer text is kept whole. -/
def alignRight (width : Nat) (text : String) : String :=
  String.ofList (List.replicate (width - text.length) ' ') ++ text

/-- A text in which every line end is the line feed: a carriage return, with the line feed that may
follow it, is one line end. -/
def unifyLineEnds : List Char → List Char
  | [] => []
  | '\r' :: '\n' :: rest => '\n' :: unifyLineEnds rest
  | c :: rest => (if c = '\r' then '\n' else c) :: unifyLineEnds rest

end Playbook.Text
