import Playbook.Proofs.Decimal.Precision

/-! # Rounding on both sides of zero

Magnitudes are rounded without regard to the sign, which is put back afterwards. A rounding that
keeps the order of magnitudes then keeps that of all numbers, and gives opposite results for
opposite numbers.
-/

namespace Playbook.Decimal

section
variable {α : Type} [AddCommGroup α] {f : ℚ → α} {x y : ℚ}

/-- A function of magnitudes, carried over to the numbers below zero. -/
def withSign (f : ℚ → α) (x : ℚ) : α := if x < 0 then -f (-x) else f x

/-- From zero up, the function of magnitudes is applied as it is. -/
theorem withSign_of_nonneg (nonneg : 0 ≤ x) : withSign f x = f x := if_neg (not_lt.mpr nonneg)

/-- Below zero, the function of magnitudes is mirrored. -/
theorem withSign_of_neg (negative : x < 0) : withSign f x = -f (-x) := if_pos negative

/-- Opposite numbers are taken to opposite results. -/
theorem withSign_neg (zero : f 0 = 0) (x : ℚ) : withSign f (-x) = -withSign f x := by
  rcases lt_trichotomy x 0 with negative | rfl | positive
  · rw [withSign_of_neg negative, withSign_of_nonneg (neg_nonneg.mpr negative.le), neg_neg]
  · rw [neg_zero, withSign_of_nonneg le_rfl, zero, neg_zero]
  · rw [withSign_of_neg (neg_lt_zero.mpr positive), withSign_of_nonneg positive.le, neg_neg]

/-- A sign that is written before a magnitude is written before the result. -/
theorem withSign_ite (zero : f 0 = 0) (nonneg : 0 ≤ x) (negative : Bool) :
    withSign f (if negative then -x else x) = if negative then -f x else f x := by
  cases negative with
  | false => exact withSign_of_nonneg nonneg
  | true => exact (withSign_neg zero x).trans (congrArg Neg.neg (withSign_of_nonneg nonneg))

/-- The order of numbers is kept where that of magnitudes is. -/
theorem withSign_mono [PartialOrder α] [IsOrderedAddMonoid α] (zero : f 0 = 0)
    (mono : ∀ {x y : ℚ}, 0 ≤ x → x ≤ y → f x ≤ f y) (ordered : x ≤ y) :
    withSign f x ≤ withSign f y := by
  have above : ∀ {z : ℚ}, 0 ≤ z → 0 ≤ f z := fun nonneg => zero ▸ mono le_rfl nonneg
  rcases lt_or_ge y 0 with below | nonneg
  · rw [withSign_of_neg below, withSign_of_neg (ordered.trans_lt below)]
    exact neg_le_neg (mono (neg_nonneg.mpr below.le) (neg_le_neg ordered))
  rw [withSign_of_nonneg nonneg]
  rcases lt_or_ge x 0 with negative | positive
  · rw [withSign_of_neg negative]
    exact (neg_nonpos.mpr (above (neg_nonneg.mpr negative.le))).trans (above nonneg)
  · rw [withSign_of_nonneg positive]
    exact mono positive ordered

end

/-- A number rounded to limits, a half to the even neighbour. -/
def Limits.roundedValue (limits : Limits) (x : ℚ) : ℚ := withSign limits.rounded x

/-- The value of a number is rounded by rounding its magnitude. -/
theorem Limits.roundedValue_value (limits : Limits) (d : Decimal) :
    limits.roundedValue d.value =
      if d.negative then -limits.rounded d.magnitude else limits.rounded d.magnitude := by
  rw [roundedValue, Decimal.value]
  exact withSign_ite limits.rounded_zero d.magnitude_nonneg d.negative

end Playbook.Decimal
