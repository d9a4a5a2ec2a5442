import Playbook.Proofs.Decimal.ReadBack
import Playbook.Proofs.Number.Coerced

/-! # Shown numbers

A number that was coerced can be shown, and what is shown is read as the number rounded to 28
digits. So an amount of the fixed-point scheme is shown exactly if, and only if, it has no more than
28 significant digits.
-/

namespace Playbook

open Decimal

/-- Holds of the magnitudes with no more than so many significant digits. -/
def HasDigits (digits : Nat) (x : ℚ) : Prop :=
  ∃ (coefficient : Nat) (exponent : ℤ), coefficient < 10 ^ digits ∧ x = coefficient * 10 ^ exponent

/-- Rounding to a precision keeps exactly the magnitudes that have no more digits. -/
theorem Decimal.Limits.rounded_eq_self_iff_hasDigits {limits : Limits} {x : ℚ} (positive : 0 < x)
    (normal : limits.lowest ≤ Int.log 10 x) :
    limits.rounded x = x ↔ HasDigits limits.precision x := by
  have place : limits.lastPlace x = Int.log 10 x - (limits.precision - 1) := by
    rw [Limits.lastPlace, max_eq_right normal]
  rw [Limits.rounded_eq_self_iff]
  constructor
  · rintro ⟨n, multiple⟩
    have quantum := limits.quantum_pos x
    have nonneg : 0 ≤ n := by
      have : 0 < (n : ℚ) := pos_of_mul_pos_left (multiple ▸ positive) quantum.le
      exact_mod_cast this.le
    obtain ⟨coefficient, rfl⟩ := Int.eq_ofNat_of_zero_le nonneg
    refine ⟨coefficient, limits.lastPlace x, ?_, multiple⟩
    have below : (coefficient : ℚ) * limits.quantum x <
        10 ^ (limits.precision : ℤ) * limits.quantum x := by
      have power : Int.log 10 x + 1 = limits.precision + limits.lastPlace x := by omega
      rw [← Int.cast_natCast, ← multiple, Limits.quantum, ← zpow_add₀ (by norm_num : (10 : ℚ) ≠ 0),
        ← power]
      exact Int.lt_zpow_succ_log_self (b := 10) (by norm_num) x
    have bounded := lt_of_mul_lt_mul_right below quantum.le
    rw [zpow_natCast] at bounded
    exact_mod_cast bounded
  · rintro ⟨coefficient, exponent, bounded, rfl⟩
    have power : (0 : ℚ) < 10 ^ exponent := zpow_pos (by norm_num) _
    apply Limits.isMultiple_natCast_mul_zpow
    have below : (coefficient : ℚ) * 10 ^ exponent < 10 ^ (limits.precision + exponent) := by
      rw [zpow_add₀ (by norm_num : (10 : ℚ) ≠ 0), zpow_natCast]
      exact mul_lt_mul_of_pos_right (by exact_mod_cast bounded) power
    have log := (Int.lt_zpow_iff_log_lt (b := 10) (by norm_num) positive).mp below
    omega

/-- The limits under which numbers are shown are proper. -/
theorem shownLimits_isProper : shownLimits.IsProper := ⟨by decide, by decide⟩

/-- What is shown of a number that was coerced is read as the number rounded to 28 digits. -/
theorem IsCoerced.ofToken?_render {val : Decimal} {scale : ℤ} (coerced : IsCoerced val scale) :
    ∃ text shown, (Value.number val scale).render = .ok text ∧ Coerce.decimal text = .ok shown ∧
      shown.value =
        if val.negative then -shownLimits.rounded val.magnitude
        else shownLimits.rounded val.magnitude := by
  have nonneg : 0 ≤ scale := by
    rcases coerced.scaled with rfl | rfl <;> decide
  have small : val.magnitude ≤ 10 ^ (78 : ℤ) :=
    calc val.magnitude ≤ val.magnitude * 10 ^ scale :=
          le_mul_of_one_le_right val.magnitude_nonneg (one_le_zpow₀ (by norm_num) nonneg)
      _ ≤ 2 ^ 256 := coerced.lt_wordBound.le
      _ ≤ 10 ^ (78 : ℤ) := by norm_num
  have bounded : shownLimits.rounded val.magnitude < 10 ^ (shownLimits.highest + 1) :=
    calc shownLimits.rounded val.magnitude ≤ 10 ^ (78 : ℤ) :=
          Limits.rounded_le_zpow shownLimits_isProper val.magnitude_nonneg (by decide) small
      _ < 10 ^ (shownLimits.highest + 1) := zpow_lt_zpow_right₀ (by norm_num) (by decide)
  obtain ⟨text, shown, renders, read, value⟩ :=
    Decimal.ofToken?_render shownLimits_isProper (by decide) (by decide) bounded
  refine ⟨text, shown, ?_, ?_, value⟩
  · rw [Value.render]
    exact renders
  · rw [Coerce.decimal, read]
    rfl

/-- A multiple of the smallest unit is zero or has its first digit within reach of the limits. -/
theorem IsCoerced.le_log_of_multiple {val : Decimal} {scale whole : ℤ}
    (coerced : IsCoerced val scale)
    (multiple : val.value = whole * 10 ^ (-scale)) (nonzero : val.isZero = false) :
    shownLimits.lowest ≤ Int.log 10 val.magnitude := by
  have unit : (0 : ℚ) < 10 ^ (-scale) := zpow_pos (by norm_num) _
  have magnitude : val.magnitude = |whole| * 10 ^ (-scale) := by
    rw [← abs_value, multiple, abs_mul, abs_of_pos unit, Int.cast_abs]
  have positive : 0 < |whole| := by
    have : 0 < ((|whole| : ℤ) : ℚ) :=
      pos_of_mul_pos_left (magnitude ▸ magnitude_pos nonzero) unit.le
    exact_mod_cast this
  have above : (10 : ℚ) ^ (-scale) ≤ val.magnitude := by
    rw [magnitude]
    exact le_mul_of_one_le_left unit.le (by exact_mod_cast positive)
  have log : -scale ≤ Int.log 10 val.magnitude :=
    (Int.zpow_le_iff_le_log (b := 10) (by norm_num) (magnitude_pos nonzero)).mp above
  have scales : shownLimits.lowest ≤ -scale := by
    rcases coerced.scaled with rfl | rfl <;> decide
  exact scales.trans log

/-- **Showing and reading.** A number that was coerced and is a multiple of the smallest unit of its
scale is shown as a text that reads as a number of the same value if, and only if, it has no more
than 28 significant digits; in any case the two differ by no more than half a unit of the 28th
digit. -/
theorem render_readsBack_of_reads {world : World} {event : Option Event} {datum : Datum}
    (reads : Coerce.number world event = .ok datum ∨ Coerce.mantissa world event = .ok datum) :
    ∃ val scale, datum = .value (.number val scale) ∧
      ∀ whole : ℤ, val.value = whole * 10 ^ (-scale) →
        ∃ text shown, (Value.number val scale).render = .ok text ∧ Coerce.decimal text = .ok shown ∧
          (shown.value = val.value ↔ HasDigits 28 |val.value|) ∧
          |shown.value - val.value| ≤ shownLimits.quantum |val.value| / 2 := by
  obtain ⟨val, scale, rfl, coerced⟩ := Coerce.exists_isCoerced reads
  refine ⟨val, scale, rfl, ?_⟩
  intro whole multiple
  obtain ⟨text, shown, renders, read, value⟩ := coerced.ofToken?_render
  have apart : |shown.value - val.value| = |shownLimits.rounded val.magnitude - val.magnitude| := by
    rw [value, Decimal.value]
    split_ifs
    · rw [← abs_neg]
      congr 1
      ring
    · rfl
  have same : shown.value = val.value ↔ shownLimits.rounded val.magnitude = val.magnitude := by
    rw [← sub_eq_zero, ← abs_eq_zero, apart, abs_eq_zero, sub_eq_zero]
  refine ⟨text, shown, renders, read, ?_, ?_⟩
  · rw [same, abs_value]
    cases zero : val.isZero with
    | true =>
        rw [magnitude_eq_zero_iff.mpr zero, Limits.rounded_zero]
        exact iff_of_true rfl ⟨0, 0, by norm_num, by norm_num⟩
    | false =>
        exact Limits.rounded_eq_self_iff_hasDigits (magnitude_pos zero)
          (coerced.le_log_of_multiple multiple zero)
  · rw [apart, abs_value]
    exact Limits.abs_rounded_sub_le shownLimits val.magnitude

/-- An amount of two digits and a zero after them is shown and read as itself. -/
theorem render_readsBack_of_reads_twoDigits :
    ∃ val text shown, Coerce.mantissa {} (some (.group [.bare "exp", .bare "-1.50"])) =
        .ok (.value (.number val 18)) ∧ (Value.number val 18).render = .ok text ∧
      Coerce.decimal text = .ok shown ∧ shown.value = -3 / 2 := by
  have reads : Coerce.mantissa {} (some (.group [.bare "exp", .bare "-1.50"])) =
      .ok (.value (.number ⟨true, 150, -2⟩ 18)) := rfl
  obtain ⟨val, scale, same, showing⟩ := render_readsBack_of_reads (.inr reads)
  obtain ⟨rfl, rfl⟩ := Value.number.inj (Datum.value.inj same)
  have value : (⟨true, 150, -2⟩ : Decimal).value = -3 / 2 := by
    norm_num [Decimal.value, Decimal.magnitude]
  have whole : (⟨true, 150, -2⟩ : Decimal).value = (-1500000000000000000 : ℤ) * 10 ^ (-18 : ℤ) := by
    rw [value]
    norm_num
  obtain ⟨text, shown, renders, read, exact, _⟩ := showing _ whole
  refine ⟨_, text, shown, reads, renders, read, ?_⟩
  rw [exact.mpr ⟨15, -1, by norm_num, by rw [value]; norm_num [abs_of_neg]⟩, value]

/-- An integer of 29 digits is shown with its last digit rounded. -/
theorem not_render_readsBack :
    Coerce.number {} (some (.bare "12345678901234567890123456789")) =
        .ok (.value (.number ⟨false, 12345678901234567890123456789, 0⟩ 0)) ∧
      (⟨false, 12345678901234567890123456789, 0⟩ : Decimal).value =
        (12345678901234567890123456789 : ℤ) * 10 ^ (-0 : ℤ) ∧
      (Value.number ⟨false, 12345678901234567890123456789, 0⟩ 0).render =
        .ok "12345678901234567890123456790" ∧
      Coerce.decimal "12345678901234567890123456790" =
        .ok ⟨false, 12345678901234567890123456790, 0⟩ ∧
      (⟨false, 12345678901234567890123456790, 0⟩ : Decimal).value ≠
        (⟨false, 12345678901234567890123456789, 0⟩ : Decimal).value := by
  refine ⟨rfl, ?_, ?_, rfl, ?_⟩
  · norm_num [Decimal.value, Decimal.magnitude]
  · have fit : shownLimits.fit ⟨false, 12345678901234567890123456789, 0⟩ =
        .ok ⟨false, 1234567890123456789012345679, 1⟩ := rfl
    have ended : stripZeros 1234567890123456789012345679 1 = (1234567890123456789012345679, 1) := by
      rw [stripZeros, if_neg (by decide)]
    have reduced : (⟨false, 1234567890123456789012345679, 1⟩ : Decimal).reduce =
        ⟨false, 1234567890123456789012345679, 1⟩ := by
      rw [reduce_of_nonzero rfl, ended]
    rw [Value.render, Decimal.render, Limits.normalize, fit, Except.map, Except.map, reduced]
    rfl
  · norm_num [Decimal.value, Decimal.magnitude]

end Playbook
