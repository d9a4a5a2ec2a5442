import Mathlib.Tactic.LinearCombination
import Playbook.Proofs.Decimal.Signed
import Playbook.Proofs.Number.Coerced
import Playbook.Value.Encoded

/-! # Encoded numbers

A number that was coerced is below the word bound once it is scaled, and is encoded as an integer.
The integer is found in two steps: the scaled number is rounded to 120 digits, a half to the even
neighbour, and then to an integer, a half away from zero. So a number just below a half may be
lifted to it in the first step and away from it in the second; all other numbers are encoded as the
nearest integer.
-/

namespace Playbook

open Decimal

/-! ### Two steps of rounding -/

/-- The limits under which numbers are encoded are proper. -/
theorem encodedLimits_isProper : encodedLimits.IsProper := ⟨by decide, by decide⟩

/-- A number is scaled and rounded to an integer where the scale is within reach of the limits and
the scaled magnitude, rounded to 120 digits, has none after them. -/
theorem Decimal.scale_toInteger_eq (val : Decimal) (scale : ℤ) :
    ∃ signal, encodedLimits.scale val scale >>= encodedLimits.toInteger =
      if scale.natAbs ≤ 2000238 ∧
          encodedLimits.rounded (val.magnitude * 10 ^ scale) < 10 ^ (120 : ℤ) then
        .ok (if val.negative then -round (encodedLimits.rounded (val.magnitude * 10 ^ scale))
          else round (encodedLimits.rounded (val.magnitude * 10 ^ scale)))
      else .error signal := by
  by_cases near : scale.natAbs ≤ 2000238
  · have close : ¬ 2 * (encodedLimits.highest + encodedLimits.precision) < scale.natAbs := by
      simp only [encodedLimits]
      omega
    obtain ⟨fitted, fits, fit⟩ :=
      Limits.fit_spec encodedLimits_isProper { val with exponent := val.exponent + scale }
    have magnitude := fits.magnitude
    rw [magnitude_shift] at fit magnitude
    rw [Limits.scale, if_neg close, fit]
    by_cases small : encodedLimits.rounded (val.magnitude * 10 ^ scale) < 10 ^ (120 : ℤ)
    · have inRange : encodedLimits.rounded (val.magnitude * 10 ^ scale) <
          10 ^ (encodedLimits.highest + 1) :=
        small.trans (zpow_lt_zpow_right₀ (by norm_num) (by decide))
      have whole : fitted.magnitude < 10 ^ (encodedLimits.precision : ℤ) := magnitude ▸ small
      refine ⟨.overflow, ?_⟩
      rw [if_pos inRange, if_pos ⟨near, small⟩, ← magnitude, ← fits.sign]
      exact (Limits.toInteger_eq encodedLimits fitted).trans (if_pos whole)
    · have large : ¬ (scale.natAbs ≤ 2000238 ∧
          encodedLimits.rounded (val.magnitude * 10 ^ scale) < 10 ^ (120 : ℤ)) :=
        fun bounds => small bounds.2
      have long : ¬ fitted.magnitude < 10 ^ (encodedLimits.precision : ℤ) := magnitude ▸ small
      simp only [if_neg large]
      split
      · exact ⟨_, (Limits.toInteger_eq encodedLimits fitted).trans (if_neg long)⟩
      · exact ⟨_, rfl⟩
  · have far : 2 * (encodedLimits.highest + encodedLimits.precision) < scale.natAbs := by
      simp only [encodedLimits]
      omega
    have out : ¬ (scale.natAbs ≤ 2000238 ∧
        encodedLimits.rounded (val.magnitude * 10 ^ scale) < 10 ^ (120 : ℤ)) :=
      fun bounds => near bounds.1
    exact ⟨.invalidOperation, by rw [Limits.scale, if_pos far, if_neg out]; rfl⟩

/-- The integer that a number with a scale is encoded as, as long as it is not too large: the scaled
magnitude is rounded to 120 digits and then to an integer. -/
theorem Decimal.encode_eq {val : Decimal} {scale : ℤ} (near : scale.natAbs ≤ 2000238)
    (small : encodedLimits.rounded (val.magnitude * 10 ^ scale) < 10 ^ (120 : ℤ)) :
    val.encode scale =
      .ok (if val.negative then -round (encodedLimits.rounded (val.magnitude * 10 ^ scale))
        else round (encodedLimits.rounded (val.magnitude * 10 ^ scale))) := by
  obtain ⟨signal, scaled⟩ := Decimal.scale_toInteger_eq val scale
  rw [if_pos ⟨near, small⟩] at scaled
  rw [Decimal.encode, scaled]

/-- The integer nearest to a rational number, a half away from zero. -/
def nearestInteger (x : ℚ) : ℤ := if x < 0 then -round (-x) else round x

/-- Holds of a magnitude that is below a half, by no more than half a unit of its 120th digit. -/
def FallsShort (x : ℚ) : Prop :=
  x < ⌊x⌋ + 1 / 2 ∧ ⌊x⌋ + 1 / 2 ≤ x + encodedLimits.quantum x / 2

section TwoSteps

variable {x : ℚ}

/-- Numbers of up to a hundred digits before the point keep two places and more after it. -/
theorem lastPlace_le_neg_two (nonneg : 0 ≤ x) (bounded : x < 10 ^ (100 : ℤ)) :
    encodedLimits.lastPlace x ≤ -2 := by
  have log : Int.log 10 x < 100 := by
    rcases nonneg.eq_or_lt with rfl | positive
    · rw [Int.log_zero_right]
      norm_num
    · exact (Int.lt_zpow_iff_log_lt (b := 10) (by norm_num) positive).mp bounded
  simp only [Limits.lastPlace, encodedLimits]
  omega

/-- Where two places after the point are kept, a half is an even number of units of the last place.
-/
theorem exists_even_half (kept : encodedLimits.lastPlace x ≤ -2) (k : ℤ) :
    ∃ n : ℤ, Even n ∧ (k : ℚ) + 1 / 2 = n * encodedLimits.quantum x := by
  obtain ⟨more, places⟩ := Int.le.dest kept
  refine ⟨(2 * k + 1) * 25 * 10 ^ more * 2, even_two.mul_left _, ?_⟩
  have hundredth : encodedLimits.quantum x * 10 ^ more = 10 ^ (-2 : ℤ) := by
    rw [← places, Limits.quantum, zpow_add₀ (by norm_num : (10 : ℚ) ≠ 0), zpow_natCast]
  have value : (10 : ℚ) ^ (-2 : ℤ) = 1 / 100 := by norm_num
  rw [value] at hundredth
  push_cast
  linear_combination (-(2 * (k : ℚ) + 1) * 50) * hundredth

/-- Between two neighbouring integers, rounding goes up from the half on. -/
theorem round_eq_ite {y : ℚ} {k : ℤ} (low : k ≤ y) (high : y ≤ k + 1) :
    round y = if (k : ℚ) + 1 / 2 ≤ y then k + 1 else k := by
  rw [round_eq_iff, Set.mem_Ico]
  split_ifs with up
  · push_cast
    constructor <;> linarith
  · constructor <;> linarith

/-- The two steps of rounding give the next integer from half a unit of the 120th digit below a
half. -/
theorem round_rounded (nonneg : 0 ≤ x) (bounded : x < 10 ^ (100 : ℤ)) :
    round (encodedLimits.rounded x) =
      if (⌊x⌋ : ℚ) + 1 / 2 ≤ x + encodedLimits.quantum x / 2 then ⌊x⌋ + 1 else ⌊x⌋ := by
  have kept := lastPlace_le_neg_two nonneg bounded
  obtain ⟨n, even, half⟩ := exists_even_half kept ⌊x⌋
  have isMultiple : ∀ k : ℕ, encodedLimits.IsMultiple x k := by
    intro k
    have multiple := Limits.isMultiple_natCast_mul_zpow k (kept.trans (by norm_num : (-2 : ℤ) ≤ 0))
    rwa [zpow_zero, mul_one] at multiple
  obtain ⟨k, floor⟩ := Int.eq_ofNat_of_zero_le (Int.floor_nonneg.mpr nonneg)
  have low : (⌊x⌋ : ℚ) ≤ encodedLimits.rounded x := by
    apply Limits.le_rounded
    · rw [floor, Int.cast_natCast]
      exact isMultiple k
    · exact Int.floor_le x
  have high : encodedLimits.rounded x ≤ (⌊x⌋ : ℚ) + 1 := by
    apply Limits.rounded_le
    · rw [floor, Int.cast_natCast]
      exact_mod_cast isMultiple (k + 1)
    · exact (Int.lt_floor_add_one x).le
  rw [round_eq_ite low high]
  simp only [half, Limits.even_le_rounded_iff even]

/-- A magnitude that falls short of a half is rounded up once it has been rounded to 120 digits. -/
theorem round_rounded_of_fallsShort (nonneg : 0 ≤ x) (bounded : x < 10 ^ (100 : ℤ))
    (short : FallsShort x) : round (encodedLimits.rounded x) = round x + 1 := by
  rw [round_rounded nonneg bounded, if_pos short.2,
    round_eq_ite (Int.floor_le x) (Int.lt_floor_add_one x).le, if_neg (not_le.mpr short.1)]

/-- Any other magnitude is rounded to the same integer before and after it has been rounded to 120
digits. -/
theorem round_rounded_of_not_fallsShort (nonneg : 0 ≤ x) (bounded : x < 10 ^ (100 : ℤ))
    (clear : ¬ FallsShort x) : round (encodedLimits.rounded x) = round x := by
  rw [round_rounded nonneg bounded, round_eq_ite (Int.floor_le x) (Int.lt_floor_add_one x).le]
  have positive := encodedLimits.quantum_pos x
  by_cases reached : (⌊x⌋ : ℚ) + 1 / 2 ≤ x
  · have close : (⌊x⌋ : ℚ) + 1 / 2 ≤ x + encodedLimits.quantum x / 2 := by linarith
    rw [if_pos reached, if_pos close]
  · have far : ¬ (⌊x⌋ : ℚ) + 1 / 2 ≤ x + encodedLimits.quantum x / 2 :=
      fun close => clear ⟨not_le.mp reached, close⟩
    rw [if_neg reached, if_neg far]

/-- A magnitude that falls short is close to a half, so it is not close to zero. -/
theorem FallsShort.quarter_le (short : FallsShort x) (nonneg : 0 ≤ x)
    (bounded : x < 10 ^ (100 : ℤ)) :
    1 / 4 ≤ x := by
  have floor : (0 : ℚ) ≤ ⌊x⌋ := by exact_mod_cast Int.floor_nonneg.mpr nonneg
  have quantum : encodedLimits.quantum x ≤ 10 ^ (-2 : ℤ) :=
    zpow_le_zpow_right₀ (by norm_num) (lastPlace_le_neg_two nonneg bounded)
  have hundredth : (10 : ℚ) ^ (-2 : ℤ) = 1 / 100 := by norm_num
  rw [hundredth] at quantum
  linarith [short.2]

/-- A magnitude of up to 120 digits does not fall short of a half. -/
theorem not_fallsShort_of_digits {d : Decimal} (digits : digitCount d.coefficient ≤ 120)
    (bounded : d.magnitude < 10 ^ (100 : ℤ)) : ¬ FallsShort d.magnitude := by
  intro short
  have quarter := short.quarter_le d.magnitude_nonneg bounded
  have nonzero : d.isZero = false := by
    rw [Bool.eq_false_iff, Ne, ← magnitude_eq_zero_iff]
    linarith
  have normal : encodedLimits.lowest ≤ d.adjusted := by
    have above : (10 : ℚ) ^ (-1 : ℤ) ≤ d.magnitude := by
      have tenth : (10 : ℚ) ^ (-1 : ℤ) = 1 / 10 := by norm_num
      rw [tenth]
      linarith
    have high : -1 ≤ d.adjusted := by
      rw [← log_magnitude nonzero]
      exact (Int.zpow_le_iff_le_log (b := 10) (by norm_num) (magnitude_pos nonzero)).mp above
    exact le_trans (by decide) high
  have same : encodedLimits.rounded d.magnitude = d.magnitude :=
    (Limits.fits_short nonzero digits fun low => absurd low.1 (not_lt.mpr normal)).magnitude.symm
  obtain ⟨n, even, half⟩ := exists_even_half (lastPlace_le_neg_two d.magnitude_nonneg bounded)
    ⌊d.magnitude⌋
  have reached := short.2
  rw [half, ← Limits.even_le_rounded_iff even, same, ← half] at reached
  exact absurd short.1 (not_lt.mpr reached)

/-- Around the word bound the 120th digit is the 42nd after the point. -/
theorem round_rounded_below_wordBound (nonneg : 0 ≤ x) (below : x < 2 ^ 256) :
    if 2 ^ 256 - 1 / 2 - 5 / 10 ^ 43 ≤ x then round (encodedLimits.rounded x) = 2 ^ 256
    else round (encodedLimits.rounded x) < 2 ^ 256 := by
  have bounded : x < 10 ^ (100 : ℤ) := below.trans (by norm_num)
  have floorBelow : ⌊x⌋ < 2 ^ 256 := Int.floor_lt.mpr (by push_cast; exact below)
  rw [round_rounded nonneg bounded]
  rcases (Int.le_sub_one_of_lt floorBelow).eq_or_lt with last | lower
  · have atLeast : (2 : ℚ) ^ 256 - 1 ≤ x := by
      have floor := Int.floor_le x
      rwa [last, Int.cast_sub, Int.cast_pow, Int.cast_ofNat, Int.cast_one] at floor
    have place : encodedLimits.lastPlace x = 77 - (120 - 1) :=
      Limits.lastPlace_eq (le_trans (by norm_num) atLeast) (below.trans (by norm_num)) (by decide)
    have quantum : encodedLimits.quantum x / 2 = 5 / 10 ^ 43 := by
      rw [Limits.quantum, place]
      norm_num
    rw [quantum, last]
    have threshold : (((2 : ℤ) ^ 256 - 1 : ℤ) : ℚ) + 1 / 2 ≤ x + 5 / 10 ^ 43 ↔
        2 ^ 256 - 1 / 2 - 5 / 10 ^ 43 ≤ x := by
      push_cast
      constructor <;> intro close <;> linarith
    simp only [threshold]
    split_ifs <;> norm_num
  · have far : ¬ 2 ^ 256 - 1 / 2 - 5 / 10 ^ 43 ≤ x := by
      have floor : (⌊x⌋ : ℚ) + 1 ≤ 2 ^ 256 - 1 := by exact_mod_cast lower
      have := Int.lt_floor_add_one x
      have small : (1 : ℚ) / 2 + 5 / 10 ^ 43 < 1 := by norm_num
      linarith
    rw [if_neg far]
    split_ifs <;> omega

end TwoSteps

/-! ### The encoded number -/

/-- A coerced number is encoded as the integer nearest to its scaled magnitude as rounded to 120
digits, with its sign. -/
theorem IsCoerced.encode_eq {val : Decimal} {scale : ℤ} (coerced : IsCoerced val scale) :
    (Value.number val scale).encode =
      .ok (.int (if val.negative then -round (encodedLimits.rounded (val.magnitude * 10 ^ scale))
        else round (encodedLimits.rounded (val.magnitude * 10 ^ scale)))) := by
  have near : scale.natAbs ≤ 2000238 := by
    rcases coerced.scaled with rfl | rfl <;> decide
  have bounded : val.magnitude * 10 ^ scale ≤ 10 ^ (100 : ℤ) :=
    (coerced.lt_wordBound.trans (by norm_num)).le
  have small : encodedLimits.rounded (val.magnitude * 10 ^ scale) < 10 ^ (120 : ℤ) :=
    (Limits.rounded_le_zpow encodedLimits_isProper (IsCoerced.scaled_nonneg val scale) (by decide)
      bounded).trans_lt (zpow_lt_zpow_right₀ (by norm_num) (by decide))
  rw [Value.encode, Decimal.encode_eq near small]
  rfl

/-- The integer nearest to a scaled value is the one nearest to the scaled magnitude, with the sign.
-/
theorem nearestInteger_value_scaled (val : Decimal) (scale : ℤ) :
    nearestInteger (val.value * 10 ^ scale) =
      if val.negative then -round (val.magnitude * 10 ^ scale)
      else round (val.magnitude * 10 ^ scale) := by
  rw [value_scaled]
  exact withSign_ite round_zero (IsCoerced.scaled_nonneg val scale) val.negative

/-- **Words.** A number that was coerced is encoded as an integer whose magnitude is below 2 ^ 256,
except that all numbers from half a unit of the 42nd place below 2 ^ 256 - 1/2 on are encoded as the
bound itself, or its opposite. -/
theorem abs_encode_of_reads {world : World} {event : Option Event} {datum : Datum}
    (reads : Coerce.number world event = .ok datum ∨ Coerce.mantissa world event = .ok datum) :
    ∃ val scale n, datum = .value (.number val scale) ∧
      (Value.number val scale).encode = .ok (.int n) ∧
      if 2 ^ 256 - 1 / 2 - 5 / 10 ^ 43 ≤ |val.value * 10 ^ scale| then |n| = 2 ^ 256
      else |n| < 2 ^ 256 := by
  obtain ⟨val, scale, rfl, coerced⟩ := Coerce.exists_isCoerced reads
  have nonneg := IsCoerced.scaled_nonneg val scale
  have bounds := round_rounded_below_wordBound nonneg coerced.lt_wordBound
  have positive : 0 ≤ round (encodedLimits.rounded (val.magnitude * 10 ^ scale)) := by
    rw [round_eq, Int.floor_nonneg]
    linarith [encodedLimits.rounded_nonneg nonneg]
  refine ⟨val, scale, _, rfl, coerced.encode_eq, ?_⟩
  rw [abs_value_scaled]
  have magnitude : ∀ n : ℤ, 0 ≤ n → |if val.negative then -n else n| = n := by
    intro n nonneg
    split_ifs
    · rw [abs_neg, abs_of_nonneg nonneg]
    · exact abs_of_nonneg nonneg
  rw [magnitude _ positive]
  exact bounds

set_option maxRecDepth 4000 in
/-- Three tenths below the bound is read as a number and encoded as the bound. -/
theorem encode_eq_wordBound :
    Coerce.number {} (some (.bare
      "115792089237316195423570985008687907853269984665640564039457584007913129639935.7")) =
        .ok (.value (.number ⟨false, 10 * 2 ^ 256 - 3, -1⟩ 0)) ∧
      (Value.number ⟨false, 10 * 2 ^ 256 - 3, -1⟩ 0).encode = .ok (.int (2 ^ 256)) :=
  ⟨rfl, rfl⟩

set_option maxRecDepth 4000 in
/-- With its scale of 18 places, the largest amount of 18 places is one below the bound. -/
theorem abs_encode_of_reads_largest :
    ∃ val n, Coerce.mantissa {} (some (.bare
        "-115792089237316195423570985008687907853269984665640564039457.584007913129639935")) =
          .ok (.value (.number val 18)) ∧
      (Value.number val 18).encode = .ok (.int n) ∧ |n| < 2 ^ 256 := by
  have reads : Coerce.mantissa {} (some (.bare
      "-115792089237316195423570985008687907853269984665640564039457.584007913129639935")) =
        .ok (.value (.number ⟨true, 2 ^ 256 - 1, -18⟩ 18)) := rfl
  obtain ⟨val, scale, n, same, encodes, bounds⟩ := abs_encode_of_reads (.inr reads)
  obtain ⟨rfl, rfl⟩ := Value.number.inj (Datum.value.inj same)
  have clear : ¬ 2 ^ 256 - 1 / 2 - 5 / 10 ^ 43 ≤
      |(⟨true, 2 ^ 256 - 1, -18⟩ : Decimal).value * 10 ^ (18 : ℤ)| := by
    rw [abs_value_scaled, Decimal.magnitude]
    norm_num
  rw [if_neg clear] at bounds
  exact ⟨_, n, reads, encodes, bounds⟩

/-- **Rounding.** A number that was coerced is encoded as the integer nearest to it once it is
scaled, a half away from zero, unless its magnitude falls short of a half by no more than half a
unit of the 120th digit: then it is encoded as the next integer away from zero. A number of up to
120 digits never falls short. -/
theorem encode_eq_nearestInteger_of_reads {world : World} {event : Option Event} {datum : Datum}
    (reads : Coerce.number world event = .ok datum ∨ Coerce.mantissa world event = .ok datum) :
    ∃ val scale n, datum = .value (.number val scale) ∧
      (Value.number val scale).encode = .ok (.int n) ∧
      (¬ FallsShort |val.value * 10 ^ scale| → n = nearestInteger (val.value * 10 ^ scale)) ∧
      (FallsShort |val.value * 10 ^ scale| →
        n = nearestInteger (val.value * 10 ^ scale) + if val.negative then -1 else 1) ∧
      (digitCount val.coefficient ≤ 120 → ¬ FallsShort |val.value * 10 ^ scale|) := by
  obtain ⟨val, scale, rfl, coerced⟩ := Coerce.exists_isCoerced reads
  have nonneg := IsCoerced.scaled_nonneg val scale
  have bounded : val.magnitude * 10 ^ scale < 10 ^ (100 : ℤ) :=
    coerced.lt_wordBound.trans (by norm_num)
  refine ⟨val, scale, _, rfl, coerced.encode_eq, ?_⟩
  rw [abs_value_scaled, nearestInteger_value_scaled]
  refine ⟨?_, ?_, ?_⟩
  · intro clear
    rw [round_rounded_of_not_fallsShort nonneg bounded clear]
  · intro short
    rw [round_rounded_of_fallsShort nonneg bounded short]
    split_ifs <;> ring
  · intro digits
    rw [← magnitude_shift] at bounded ⊢
    exact not_fallsShort_of_digits digits bounded

/-- A number of 121 digits, less than half a unit of the 120th below one half. -/
def belowHalf : Decimal := ⟨false, 5 * 10 ^ 120 - 1, -121⟩

/-- The number is one half less one unit of its last digit. -/
theorem magnitude_belowHalf : belowHalf.magnitude * 10 ^ (0 : ℤ) = 1 / 2 - 1 / 10 ^ 121 := by
  rw [belowHalf, Decimal.magnitude]
  norm_num

set_option maxRecDepth 4000 in
/-- The number is read of a token with 121 digits. -/
theorem number_belowHalf :
    Coerce.number {} (some (.bare (String.ofList ("0.4".toList ++ List.replicate 120 '9')))) =
      .ok (.value (.number belowHalf 0)) := rfl

set_option maxRecDepth 4000 in
/-- A number below one half is encoded as one, though zero is nearer. -/
theorem encode_ne_nearestInteger :
    Coerce.number {} (some (.bare (String.ofList ("0.4".toList ++ List.replicate 120 '9')))) =
        .ok (.value (.number belowHalf 0)) ∧
      (Value.number belowHalf 0).encode = .ok (.int 1) ∧
      nearestInteger (belowHalf.value * 10 ^ (0 : ℤ)) = 0 := by
  refine ⟨number_belowHalf, rfl, ?_⟩
  have positive : belowHalf.negative = false := rfl
  rw [nearestInteger_value_scaled, positive, if_neg Bool.false_ne_true, magnitude_belowHalf,
    round_eq_zero_iff, Set.mem_Ico]
  norm_num

/-- The number falls short of one half and is encoded as the integer after the nearest one. -/
theorem encode_eq_nearestInteger_of_reads_belowHalf :
    ∃ val n,
      Coerce.number {} (some (.bare (String.ofList ("0.4".toList ++ List.replicate 120 '9')))) =
        .ok (.value (.number val 0)) ∧
      (Value.number val 0).encode = .ok (.int n) ∧ FallsShort |val.value * 10 ^ (0 : ℤ)| ∧
      n = nearestInteger (val.value * 10 ^ (0 : ℤ)) + 1 := by
  obtain ⟨val, scale, n, same, encodes, _, short, _⟩ :=
    encode_eq_nearestInteger_of_reads (.inl number_belowHalf)
  obtain ⟨rfl, rfl⟩ := Value.number.inj (Datum.value.inj same)
  have falls : FallsShort |belowHalf.value * 10 ^ (0 : ℤ)| := by
    have floor : ⌊(1 : ℚ) / 2 - 1 / 10 ^ 121⌋ = 0 := by
      rw [Int.floor_eq_iff]
      norm_num
    have place : encodedLimits.lastPlace (1 / 2 - 1 / 10 ^ 121) = -1 - (120 - 1) :=
      Limits.lastPlace_eq (by norm_num) (by norm_num) (by decide)
    rw [abs_value_scaled, magnitude_belowHalf, FallsShort, floor, Limits.quantum, place]
    norm_num
  exact ⟨belowHalf, n, number_belowHalf, encodes, falls, short falls⟩

end Playbook
