import Playbook.Coercion
import Playbook.Proofs.Decimal.Precision

/-! # Coerced numbers

The coercions of numbers give numbers of scale 0 or 18. Every one of them is below the word bound
once it is scaled.
-/

namespace Playbook

open Decimal

/-- What holds of every number that a coercion of numbers gives. -/
structure IsCoerced (val : Decimal) (scale : ℤ) : Prop where
  scaled : scale = 0 ∨ scale = mantissaScale
  fits : Coerce.fitsWord val scale = .ok true

namespace Coerce

/-- What is read with a scale is the number that the token denotes, which is below the word bound.
-/
theorem scaledNumber_eq_ok {scale : ℤ} {token : String} {value : Value}
    (scaled : scale = 0 ∨ scale = mantissaScale) (reads : scaledNumber scale token = .ok value) :
    ∃ val, decimal token = .ok val ∧ value = .number val scale ∧ IsCoerced val scale := by
  unfold scaledNumber at reads
  cases denoted : decimal token with
  | error failure =>
      rw [denoted] at reads
      cases reads
  | ok val =>
      rw [denoted] at reads
      cases fits : fitsWord val scale with
      | error signal =>
          simp only [bind, Except.bind, Except.mapError, fits] at reads
          cases reads
      | ok isWord =>
          simp only [bind, Except.bind, Except.mapError, fits] at reads
          cases isWord with
          | false => cases reads
          | true => exact ⟨val, rfl, (Except.ok.inj reads).symm, scaled, fits⟩

/-- The number of a token that is read with a scale is a coerced number. -/
theorem numberOfToken_eq_ok {scale : ℤ} {event : Event} {value : Value}
    (scaled : scale = 0 ∨ scale = mantissaScale)
    (reads : (token "number" (some event) >>= scaledNumber scale) = .ok value) :
    ∃ val scale, value = .number val scale ∧ IsCoerced val scale := by
  cases event with
  | atom token quoted =>
      obtain ⟨val, -, rfl, coerced⟩ := scaledNumber_eq_ok scaled reads
      exact ⟨val, scale, rfl, coerced⟩
  | group items => cases reads

/-- The number of a tagged pair is a coerced number. -/
theorem taggedNumber_eq_ok {items : List Event} {value : Value}
    (reads : taggedNumber items = some (.ok value)) :
    ∃ val scale, value = .number val scale ∧ IsCoerced val scale := by
  unfold taggedNumber at reads
  split at reads
  next tag inner =>
    split_ifs at reads with exactly mantissa
    · exact numberOfToken_eq_ok (.inl rfl) (Option.some.inj reads)
    · exact numberOfToken_eq_ok (.inr rfl) (Option.some.inj reads)
  · cases reads

/-- The number of an event is a coerced number. -/
theorem numberOfEvent_eq_ok {scale : ℤ} (scaled : scale = 0 ∨ scale = mantissaScale) {event : Event}
    {value : Value} (reads : numberOfEvent scale event = .ok value) :
    ∃ val scale, value = .number val scale ∧ IsCoerced val scale := by
  cases event with
  | atom text quoted =>
      have read : (token "number" (some (.atom text quoted)) >>= scaledNumber scale) = .ok value :=
        reads
      exact numberOfToken_eq_ok scaled read
  | group items =>
      rw [numberOfEvent] at reads
      cases tagged : taggedNumber items with
      | none =>
          rw [tagged] at reads
          cases reads
      | some result =>
          rw [tagged, Option.getD_some] at reads
          exact taggedNumber_eq_ok (tagged.trans (congrArg some reads))

/-- What is read as a number is one, whichever of the two scales a bare token is given. -/
theorem exists_isCoerced {world : World} {event : Option Event} {datum : Datum}
    (reads : number world event = .ok datum ∨ mantissa world event = .ok datum) :
    ∃ val scale, datum = .value (.number val scale) ∧ IsCoerced val scale := by
  have ofScale : ∀ scale : ℤ, scale = 0 ∨ scale = mantissaScale →
      ofEvent "number" (fun _ => numberOfEvent scale) world event = .ok datum →
      ∃ val scale, datum = .value (.number val scale) ∧ IsCoerced val scale := by
    intro scale scaled reads
    obtain ⟨content, value, -, read, rfl⟩ := ofEvent_eq_ok reads
    obtain ⟨val, scale, rfl, coerced⟩ := numberOfEvent_eq_ok scaled read
    exact ⟨val, scale, rfl, coerced⟩
  exact reads.elim (ofScale 0 (.inl rfl)) (ofScale mantissaScale (.inr rfl))

end Coerce

/-- The bound of words is the 256th power of two. -/
theorem cast_wordBound : ((wordBound : ℤ) : ℚ) = 2 ^ 256 := by
  have power : wordBound = 2 ^ 256 := rfl
  rw [power]
  norm_num

/-- The limits under which numbers are measured against words are proper. -/
theorem wordLimits_isProper : wordLimits.IsProper := ⟨by decide, by decide⟩

/-- Whole numbers of up to 78 digits are left as they are. -/
theorem rounded_natCast {n : Nat} (short : (n : ℚ) < 10 ^ (78 : ℤ)) : wordLimits.rounded n = n := by
  have place : wordLimits.lastPlace n ≤ 0 := by
    have log : Int.log 10 (n : ℚ) < 78 := by
      rcases n.eq_zero_or_pos with rfl | positive
      · rw [Nat.cast_zero, Int.log_zero_right]
        decide
      · exact (Int.lt_zpow_iff_log_lt (b := 10) (by norm_num) (Nat.cast_pos.mpr positive)).mp short
    simp only [Limits.lastPlace, wordLimits]
    omega
  apply Limits.rounded_of_isMultiple
  have multiple := Limits.isMultiple_natCast_mul_zpow n place
  rwa [zpow_zero, mul_one] at multiple

/-- The word bound has no more digits than a number that is compared with it. -/
theorem rounded_wordBound : wordLimits.rounded (2 ^ 256) = 2 ^ 256 := by
  have kept := rounded_natCast (n := 2 ^ 256) (by norm_num)
  rwa [Nat.cast_pow, Nat.cast_ofNat] at kept

/-- The word bound has 78 digits. -/
theorem digitCount_wordBound : digitCount wordBound = 78 := by decide

/-- Below the bound of the digit count, scaling for the comparison raises no signal. -/
theorem exists_scale_wordLimits {val : Decimal} {scale : ℤ}
    (scaled : scale = 0 ∨ scale = mantissaScale)
    (small : val.magnitude * 10 ^ scale < 10 ^ (78 : ℤ)) :
    ∃ shifted, wordLimits.scale val scale = .ok shifted ∧
      shifted.magnitude = wordLimits.rounded (val.magnitude * 10 ^ scale) := by
  have nonneg : 0 ≤ val.magnitude * 10 ^ scale :=
    mul_nonneg val.magnitude_nonneg (zpow_pos (by norm_num) scale).le
  have near : ¬ 2 * (wordLimits.highest + wordLimits.precision) < scale.natAbs := by
    rcases scaled with rfl | rfl <;> decide
  obtain ⟨shifted, fit, fits⟩ := Limits.fit_eq_ok wordLimits_isProper
    { val with exponent := val.exponent + scale } (by
      rw [magnitude_shift]
      exact (Limits.rounded_le_zpow wordLimits_isProper nonneg (by decide) small.le).trans_lt
        (zpow_lt_zpow_right₀ (by norm_num) (by decide)))
  exact ⟨shifted, by rw [Limits.scale, if_neg near, fit], by rw [fits.magnitude, magnitude_shift]⟩

/-- Whether a number fits into a word is decided without a signal, on the number rounded to 98
digits. -/
theorem fitsWord_eq (val : Decimal) {scale : ℤ} (scaled : scale = 0 ∨ scale = mantissaScale) :
    Coerce.fitsWord val scale =
      .ok (decide (wordLimits.rounded (val.magnitude * 10 ^ scale) < 2 ^ 256)) := by
  have nonneg : 0 ≤ val.magnitude * 10 ^ scale :=
    mul_nonneg val.magnitude_nonneg (zpow_pos (by norm_num) scale).le
  by_cases long : val.isZero = false ∧ 78 ≤ val.adjusted + scale
  · have large : (10 : ℚ) ^ (78 : ℤ) ≤ val.magnitude * 10 ^ scale := by
      have nonzero : ({ val with exponent := val.exponent + scale } : Decimal).isZero = false :=
        long.1
      have adjusted := long.2
      rw [← magnitude_shift, ← not_lt, magnitude_lt_zpow_iff nonzero]
      unfold Decimal.adjusted at adjusted ⊢
      dsimp only
      omega
    have reached : (2 : ℚ) ^ 256 ≤ wordLimits.rounded (val.magnitude * 10 ^ scale) := by
      rw [← rounded_wordBound]
      exact Limits.rounded_mono wordLimits_isProper (by positivity) (le_trans (by norm_num) large)
    rw [decide_eq_false (not_lt.mpr reached), Coerce.fitsWord, digitCount_wordBound, long.1]
    simp [long.2]
  · have small : val.magnitude * 10 ^ scale < 10 ^ (78 : ℤ) := by
      cases zero : val.isZero with
      | true =>
          rw [magnitude_eq_zero_iff.mpr zero, zero_mul]
          positivity
      | false =>
          have nonzero : ({ val with exponent := val.exponent + scale } : Decimal).isZero = false :=
            zero
          have short : val.adjusted + scale < 78 := not_le.mp fun reached => long ⟨zero, reached⟩
          rw [← magnitude_shift, magnitude_lt_zpow_iff nonzero]
          unfold Decimal.adjusted at short ⊢
          dsimp only
          omega
    obtain ⟨shifted, scaling, rounds⟩ := exists_scale_wordLimits scaled small
    have isWord : (shifted.truncate : ℤ) < wordBound ↔
        wordLimits.rounded (val.magnitude * 10 ^ scale) < 2 ^ 256 := by
      rw [truncate_eq_floor, Int.floor_lt, cast_wordBound, rounds]
    have guard :
        (!val.isZero && decide ((digitCount wordBound : ℤ) ≤ val.adjusted + scale)) = false := by
      rw [digitCount_wordBound]
      cases zero : val.isZero with
      | true => rfl
      | false => simpa [zero] using long
    rw [Coerce.fitsWord, guard, if_neg Bool.false_ne_true, scaling]
    exact congrArg Except.ok (decide_eq_decide.mpr isWord)

/-- A number that was coerced is below the word bound once it is scaled. -/
theorem IsCoerced.lt_wordBound {val : Decimal} {scale : ℤ} (coerced : IsCoerced val scale) :
    val.magnitude * 10 ^ scale < 2 ^ 256 := by
  have fits := coerced.fits
  rw [fitsWord_eq val coerced.scaled, Except.ok.injEq, decide_eq_true_eq] at fits
  by_contra reached
  have kept := Limits.rounded_mono wordLimits_isProper (by positivity) (not_lt.mp reached)
  rw [rounded_wordBound] at kept
  exact absurd fits (not_lt.mpr kept)

/-- A whole number fits into a word if it is below the bound. -/
theorem fitsWord_of_natCast {val : Decimal} {n : Nat} (whole : val.magnitude = n)
    (below : n < 2 ^ 256) :
    Coerce.fitsWord val 0 = .ok true := by
  have bounded : (n : ℚ) < 2 ^ 256 := by exact_mod_cast below
  have short : (n : ℚ) < 10 ^ (78 : ℤ) := bounded.trans (by norm_num)
  rw [fitsWord_eq val (.inl rfl), zpow_zero, mul_one, whole, rounded_natCast short,
    decide_eq_true bounded]

/-- A scaled magnitude is not negative. -/
theorem IsCoerced.scaled_nonneg (val : Decimal) (scale : ℤ) : 0 ≤ val.magnitude * 10 ^ scale :=
  mul_nonneg val.magnitude_nonneg (zpow_pos (by norm_num) scale).le

/-- A value is scaled by scaling its magnitude. -/
theorem value_scaled (val : Decimal) (scale : ℤ) :
    val.value * 10 ^ scale =
      if val.negative then -(val.magnitude * 10 ^ scale) else val.magnitude * 10 ^ scale := by
  rw [Decimal.value]
  split_ifs
  · rw [neg_mul]
  · rfl

/-- The scaled magnitude is the scaled value without its sign. -/
theorem abs_value_scaled (val : Decimal) (scale : ℤ) :
    |val.value * 10 ^ scale| = val.magnitude * 10 ^ scale := by
  rw [abs_mul, abs_value, abs_of_pos (zpow_pos (by norm_num) scale)]

end Playbook
