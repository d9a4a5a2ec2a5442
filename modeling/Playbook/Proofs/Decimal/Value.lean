import Mathlib.Data.Int.Log
import Mathlib.Data.Rat.Floor
import Mathlib.Tactic.Linarith
import Mathlib.Tactic.Positivity
import Mathlib.Tactic.Ring
import Playbook.Decimal.Limits

/-! # The value of a decimal number

A decimal number stands for a rational number. Two decimal numbers may differ and have the same
value; the exponent of the first digit depends on the value alone.
-/

namespace Playbook.Decimal

/-- The absolute value of a decimal number. -/
def magnitude (d : Decimal) : ℚ := d.coefficient * 10 ^ d.exponent

/-- The rational number that a decimal number stands for. -/
def value (d : Decimal) : ℚ := if d.negative then -d.magnitude else d.magnitude

/-- The power of ten that is computed is the power of ten. -/
theorem cast_tenTo (places : Nat) : ((tenTo places : Nat) : ℚ) = 10 ^ (places : ℤ) := by
  have power : tenTo places = 10 ^ places := rfl
  rw [power, Nat.cast_pow, zpow_natCast]
  norm_num

/-- A power of ten is above zero. -/
theorem tenTo_pos (places : Nat) : 0 < tenTo places := Nat.pow_pos (by decide)

/-- A magnitude is not negative. -/
theorem magnitude_nonneg (d : Decimal) : 0 ≤ d.magnitude := by
  have power : (0 : ℚ) < 10 ^ d.exponent := zpow_pos (by norm_num) _
  exact mul_nonneg (Nat.cast_nonneg _) power.le

/-- The magnitude is the value without its sign. -/
theorem abs_value (d : Decimal) : |d.value| = d.magnitude := by
  unfold value
  split
  · rw [abs_neg, abs_of_nonneg d.magnitude_nonneg]
  · exact abs_of_nonneg d.magnitude_nonneg

/-- The magnitude is zero if and only if the number is one of the zeros. -/
theorem magnitude_eq_zero_iff {d : Decimal} : d.magnitude = 0 ↔ d.isZero = true := by
  have power : (10 : ℚ) ^ d.exponent ≠ 0 := zpow_ne_zero _ (by norm_num)
  simp [magnitude, isZero, power]

/-- The magnitude of a number that is not zero is above zero. -/
theorem magnitude_pos {d : Decimal} (nonzero : d.isZero = false) : 0 < d.magnitude := by
  refine lt_of_le_of_ne d.magnitude_nonneg (Ne.symm fun zero => ?_)
  rw [magnitude_eq_zero_iff, nonzero] at zero
  cases zero

/-- Decimal numbers of one sign and one magnitude have one value. -/
theorem value_eq_of_magnitude {d other : Decimal} (sign : other.negative = d.negative)
    (same : other.magnitude = d.magnitude) : other.value = d.value := by
  rw [value, value, sign, same]

/-! ### The first digit -/

/-- A number is at least the power of ten that its first digit stands for. -/
theorem zpow_digitCount_le {n : Nat} (positive : 0 < n) :
    (10 : ℚ) ^ ((digitCount n : ℤ) - 1) ≤ n := by
  obtain ⟨less, digits⟩ : ∃ less, digitCount n = less + 1 :=
    ⟨digitCount n - 1, by have := digitCount_pos n; omega⟩
  have atLeast : tenTo less ≤ n := by
    cases less with
    | zero => exact positive
    | succ less =>
        by_contra below
        have := (digitCount_le_iff (Nat.succ_pos less)).mpr (Nat.lt_of_not_le below)
        omega
  have power : (digitCount n : ℤ) - 1 = less := by omega
  rw [power, ← cast_tenTo]
  exact_mod_cast atLeast

/-- A number is below the power of ten with one zero for each of its digits. -/
theorem lt_zpow_digitCount (n : Nat) : (n : ℚ) < 10 ^ (digitCount n : ℤ) := by
  rw [← cast_tenTo]
  exact_mod_cast (digitCount_le_iff (digitCount_pos n)).mp le_rfl

/-- The exponent of the first digit is the logarithm of the magnitude, rounded down. -/
theorem log_magnitude {d : Decimal} (nonzero : d.isZero = false) :
    Int.log 10 d.magnitude = d.adjusted := by
  have power : (0 : ℚ) < 10 ^ d.exponent := zpow_pos (by norm_num) _
  have positive : 0 < d.coefficient := by
    simp only [isZero, beq_eq_false_iff_ne] at nonzero
    omega
  apply le_antisymm
  · rw [← Int.lt_add_one_iff, ← Int.lt_zpow_iff_log_lt (by norm_num) (magnitude_pos nonzero)]
    have exponent : d.adjusted + 1 = digitCount d.coefficient + d.exponent := by
      unfold adjusted
      ring
    rw [exponent, Nat.cast_ofNat, zpow_add₀ (by norm_num), magnitude]
    exact mul_lt_mul_of_pos_right (lt_zpow_digitCount _) power
  · rw [← Int.zpow_le_iff_le_log (by norm_num) (magnitude_pos nonzero)]
    have exponent : d.adjusted = (digitCount d.coefficient - 1 : ℤ) + d.exponent := by
      unfold adjusted
      ring
    rw [exponent, Nat.cast_ofNat, zpow_add₀ (by norm_num), magnitude]
    exact mul_le_mul_of_nonneg_right (zpow_digitCount_le positive) power.le

/-- A magnitude is below a power of ten if and only if the adjusted exponent is below its exponent.
-/
theorem magnitude_lt_zpow_iff {d : Decimal} (nonzero : d.isZero = false) {places : ℤ} :
    d.magnitude < 10 ^ places ↔ d.adjusted < places := by
  rw [← log_magnitude nonzero]
  exact Int.lt_zpow_iff_log_lt (b := 10) (by norm_num) (magnitude_pos nonzero)

/-! ### Shifting and cutting -/

/-- Raising the exponent multiplies the magnitude by a power of ten. -/
theorem magnitude_shift (d : Decimal) (places : ℤ) :
    ({ d with exponent := d.exponent + places } : Decimal).magnitude =
      d.magnitude * 10 ^ places := by
  simp only [magnitude, zpow_add₀ (by norm_num : (10 : ℚ) ≠ 0), mul_assoc]

/-- Without places behind the point, the magnitude is a natural number. -/
theorem magnitude_of_exponent_nonneg {d : Decimal} (whole : 0 ≤ d.exponent) :
    d.magnitude = (d.coefficient * tenTo d.exponent.toNat : Nat) := by
  rw [magnitude, Nat.cast_mul, cast_tenTo, Int.toNat_of_nonneg whole]

/-- With places behind the point, the magnitude is a decimal fraction. -/
theorem magnitude_of_exponent_neg {d : Decimal} (fraction : ¬ 0 ≤ d.exponent) :
    d.magnitude = d.coefficient / tenTo d.exponent.natAbs := by
  have exponent : (d.exponent.natAbs : ℤ) = -d.exponent := by omega
  rw [magnitude, cast_tenTo, exponent, zpow_neg, div_inv_eq_mul]

/-- Truncating a number gives the floor of its magnitude. -/
theorem truncate_eq_floor (d : Decimal) : (d.truncate : ℤ) = ⌊d.magnitude⌋ := by
  unfold truncate
  split
  case isTrue zero => rw [magnitude_eq_zero_iff.mpr zero, Int.floor_zero, Nat.cast_zero]
  case isFalse nonzero =>
    rw [Bool.not_eq_true] at nonzero
    split
    case isTrue whole => rw [magnitude_of_exponent_nonneg whole, Int.floor_natCast]
    case isFalse fraction =>
      split
      case isTrue short =>
        have below : d.magnitude < 10 ^ (0 : ℤ) := by
          rw [magnitude_lt_zpow_iff nonzero, adjusted]
          omega
        rw [zpow_zero] at below
        exact (Int.floor_eq_iff.mpr ⟨by simpa using d.magnitude_nonneg, by simpa using below⟩).symm
      case isFalse =>
        rw [magnitude_of_exponent_neg fraction, Rat.floor_natCast_div_natCast, Int.natCast_ediv]

/-! ### Tests of the value -/

/-- A number counts as below zero if and only if its value is negative. -/
theorem isBelowZero_iff {d : Decimal} : d.isBelowZero = true ↔ d.value < 0 := by
  rw [isBelowZero, value]
  cases d.negative with
  | false => simpa using d.magnitude_nonneg
  | true =>
      cases zero : d.isZero with
      | true => simp [magnitude_eq_zero_iff.mpr zero]
      | false => simpa using magnitude_pos zero

/-- A number counts as whole if and only if truncating it changes nothing. -/
theorem isWhole_iff {d : Decimal} : d.isWhole = true ↔ d.magnitude = d.truncate := by
  unfold isWhole truncate
  cases zero : d.isZero with
  | true => simp [magnitude_eq_zero_iff.mpr zero]
  | false =>
    by_cases whole : 0 ≤ d.exponent
    · simp [whole, magnitude_of_exponent_nonneg whole]
    by_cases short : digitCount d.coefficient ≤ d.exponent.natAbs
    · have nonzero := (magnitude_pos zero).ne'
      simp [whole, short, not_lt.mpr short, nonzero]
    · have nonzero : ((tenTo d.exponent.natAbs : Nat) : ℚ) ≠ 0 :=
        Nat.cast_ne_zero.mpr (tenTo_pos _).ne'
      simp only [whole, short, not_le.mp short, magnitude_of_exponent_neg whole, div_eq_iff nonzero,
        decide_true, decide_false, Bool.false_or, Bool.true_and, Bool.false_eq_true, if_false,
        beq_iff_eq]
      rw [← Nat.dvd_iff_mod_eq_zero, Nat.dvd_iff_div_mul_eq, eq_comm]
      norm_cast

/-- A value is a natural number if it is whole and not below zero; it is then the number without its
fraction. -/
theorem value_eq_natCast_iff {d : Decimal} {n : Nat} :
    d.value = n ↔ d.isBelowZero = false ∧ d.isWhole = true ∧ d.truncate = n := by
  rw [← Bool.not_eq_true, isBelowZero_iff, not_lt, isWhole_iff]
  constructor
  · intro whole
    have magnitude : d.magnitude = n := by rw [← abs_value, whole, Nat.abs_cast]
    have truncated : (d.truncate : ℤ) = n := by rw [truncate_eq_floor, magnitude, Int.floor_natCast]
    have same : d.truncate = n := by exact_mod_cast truncated
    exact ⟨whole ▸ n.cast_nonneg, same ▸ magnitude, same⟩
  · rintro ⟨nonneg, whole, rfl⟩
    rw [← whole, ← abs_value, abs_of_nonneg nonneg]

end Playbook.Decimal
