import Playbook.Text.Quoted

/-! # Texts on one line

A text stands on one line if it has no line break. Numbers and texts between quotation marks always
do, and what is put together stands on one line if all its parts do.
-/

namespace Playbook.Text

/-- The text has no line break. -/
def IsOneLine (text : String) : Prop := '\n' ∉ text.toList

instance (text : String) : Decidable (IsOneLine text) :=
  inferInstanceAs (Decidable ('\n' ∉ text.toList))

/-- A text stands on one line if both of its parts do. -/
theorem isOneLine_append {first second : String} :
    IsOneLine (first ++ second) ↔ IsOneLine first ∧ IsOneLine second := by
  simp only [IsOneLine, String.toList_append, List.mem_append, not_or]

/-- A text stands on one line if no character of it is a line break. -/
theorem isOneLine_ofList {text : List Char} : IsOneLine (String.ofList text) ↔ '\n' ∉ text := by
  rw [IsOneLine, String.toList_ofList]

/-- A natural number is written on one line. -/
theorem isOneLine_toString_nat (n : Nat) : IsOneLine (toString n) := by
  intro member
  have isDigit : ('\n' : Char).isDigit = true := by
    apply Nat.isDigit_of_mem_toDigits (b := 10) (n := n) (by decide) (by decide)
    simpa [Nat.toString_eq_repr, Nat.repr] using member
  cases isDigit

/-- An integer is written on one line. -/
theorem isOneLine_toString_int (n : Int) : IsOneLine (toString n) := by
  cases n with
  | ofNat n => exact isOneLine_toString_nat n
  | negSucc n => exact isOneLine_append.mpr ⟨by decide, isOneLine_toString_nat (n + 1)⟩

/-- Texts that are joined by one that stands on one line. -/
theorem isOneLine_intercalate {separator : String} (joined : IsOneLine separator)
    {texts : List String} :
    IsOneLine (separator.intercalate texts) ↔ ∀ text ∈ texts, IsOneLine text := by
  induction texts with
  | nil => simp [IsOneLine]
  | cons text texts ih =>
      cases texts with
      | nil => simp
      | cons next others =>
          rw [String.intercalate_cons_cons, isOneLine_append, isOneLine_append, ih]
          simp [joined]

/-! ### Quotation -/

/-- Hexadecimal digits are no line breaks. -/
theorem lineBreak_not_mem_hexadecimal (width n : Nat) : '\n' ∉ hexadecimal width n := by
  induction width generalizing n with
  | zero => exact List.not_mem_nil
  | succ width ih =>
      have digit : ∀ remainder < 16, Nat.digitChar remainder ≠ '\n' := by decide
      rw [hexadecimal, List.mem_append, List.mem_singleton, not_or]
      exact ⟨ih _, (digit _ (Nat.mod_lt n (by decide))).symm⟩

/-- A line break is not written as it is between quotation marks. -/
theorem lineBreak_not_mem_escape {mark : Char} (other : mark ≠ '\n') (c : Char) :
    '\n' ∉ escape mark c := by
  have noDigit (width : Nat) := lineBreak_not_mem_hexadecimal width c.toNat
  unfold escape
  split
  next special => rcases special with rfl | rfl <;> simp [Ne.symm other]
  split
  · decide
  split
  · decide
  split
  · decide
  next differs _ _ =>
  split
  · simpa using Ne.symm differs
  split
  · simpa using noDigit 2
  split
  · simpa using noDigit 4
  · simpa using noDigit 8

/-- A quotation mark is no line break. -/
theorem quotationMark_ne_lineBreak (text : List Char) : quotationMark text ≠ '\n' := by
  unfold quotationMark
  split <;> decide

/-- A quoted text stands on one line. -/
theorem isOneLine_quote (text : String) : IsOneLine (quote text) := by
  have mark := quotationMark_ne_lineBreak text.toList
  rw [quote, isOneLine_ofList, List.mem_append, List.mem_cons, List.mem_flatMap,
    List.mem_singleton]
  rintro ((isMark | ⟨c, -, inEscape⟩) | isMark)
  · exact mark isMark.symm
  · exact lineBreak_not_mem_escape mark c inEscape
  · exact mark isMark.symm

/-- A quoted character stands on one line. -/
theorem isOneLine_quoteChar (c : Char) : IsOneLine (quoteChar c) := isOneLine_quote _

end Playbook.Text
