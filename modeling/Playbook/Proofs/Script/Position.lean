import Playbook.Proofs.Script.Grammar

/-! # Where statements start

The line of a statement is that of its first item. To say which place of the script this is, the
script is laid out up to there: the statements before, and spacing, take up all that stands before
the item.
-/

namespace Playbook.Script

/-- Past earlier statements, the text that is left of a script leads to the first item of a
statement; `before` is all of the script that stands before this item. -/
inductive LeadsTo (script : List Char) :
    (text : List Char) → (earlier : List Statement) → Statement → (before : List Char) → Prop
  | here {before text start after : List Char} {item : Event} {items : List Event}
      {number : Option Nat} (spacing : Spacing true text start) (place : script = before ++ start)
      (written : Written item start after) :
      LeadsTo script text [] ⟨item :: items, number⟩ before
  | past {before text start after stop : List Char} {item : Event} {items : List Event}
      {number : Option Nat} {earlier : List Statement} {statement : Statement}
      (spacing : Spacing true text start) (written : Written item start after)
      (line : Sequence false items after stop) (ends : LineEnds stop)
      (more : LeadsTo script stop earlier statement before) :
      LeadsTo script text (⟨item :: items, number⟩ :: earlier) statement before

/-- In a script, a statement that follows earlier ones starts after the text `before`. -/
def StartsAfter (script : String) (earlier : List Statement) (statement : Statement)
    (before : List Char) : Prop :=
  LeadsTo script.toList script.toList earlier statement before

/-- A statement that is laid out starts after the ones before it, on the line where it starts. -/
theorem LaysOut.leadsTo {script text : List Char} {statements : List Statement}
    (lays : LaysOut script text statements) {index : Nat} {statement : Statement}
    (present : statements[index]? = some statement) :
    ∃ before, LeadsTo script text (statements.take index) statement before ∧
      statement.items ≠ [] ∧ statement.line = some (1 + before.count '\n') := by
  induction lays generalizing index with
  | nil spacing => cases present
  | cons spacing place written line ends more ih =>
      cases index with
      | zero =>
          obtain rfl := Option.some.inj present
          exact ⟨_, .here spacing place written, List.cons_ne_nil _ _, rfl⟩
      | succ index =>
          obtain ⟨before, leads, placed⟩ := ih present
          exact ⟨before, .past spacing written line ends leads, placed⟩

/-- A statement that is read is not empty, and its line is one more than the line breaks before it.
-/
theorem startsAfter_of_parse {script : String} {statements : List Statement}
    (parsed : parse script = .ok statements) {index : Nat} {statement : Statement}
    (present : statements[index]? = some statement) :
    ∃ before, StartsAfter script (statements.take index) statement before ∧
      statement.items ≠ [] ∧ statement.line = some (1 + before.count '\n') :=
  (isLayout_of_parse parsed).leadsTo present

end Playbook.Script
