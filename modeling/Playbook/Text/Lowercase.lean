import Playbook.Text.Lowercase.Table

/-! # Lower case

Names are compared in lower case. Two characters need more than the table of single mappings: the
capital I with a dot becomes two characters, and the capital sigma takes its final form where a
cased character stands before it and none after it, characters without a case of their own being
skipped.
-/

namespace Playbook.Text

/-- The lower-case form of a character on its own. -/
def lowerChar (c : Char) : Char :=
  if c.toNat < 0x80 then c.toLower
  else (caseRuns.findSome? (·.lower? c.toNat)).elim c Char.ofNat

/-- Whether the nearest character that is not skipped is cased. -/
def nextIsCased (neighbours : List Char) : Bool :=
  (neighbours.dropWhile caseIgnorable.contains).head?.any cased.contains

/-- The form of a capital sigma between two texts, the one before it read backwards. -/
def lowerSigma (before after : List Char) : Char :=
  if nextIsCased before && !nextIsCased after then 'ς' else 'σ'

/-- Lowers a text that follows `before`, which is read backwards. -/
def lowerAfter (before : List Char) : List Char → List Char
  | [] => []
  | 'İ' :: rest => 'i' :: '\u0307' :: lowerAfter ('İ' :: before) rest
  | 'Σ' :: rest => lowerSigma before rest :: lowerAfter ('Σ' :: before) rest
  | c :: rest => lowerChar c :: lowerAfter (c :: before) rest

/-- The lower-case form of a text. -/
def lower (text : String) : String := String.ofList (lowerAfter [] text.toList)

end Playbook.Text
