import Playbook.Proofs.Number.Encoding
import Playbook.Proofs.Number.Shown

/-! # The range of encoded numbers

A number need not come from a script: a command may fall back on any, and a handler may give any. It
is encoded where it has an integer of 120 digits at its scale. Where it has none, an error of the
script tells the number, rounded to 120 digits; a number beyond the largest exponent cannot be told,
and its encoding ends in a signal.
-/

namespace Playbook

open Decimal

/-- The scale of a number is within reach of the limits, and the scaled number is nearer to an
integer of 120 digits than to one with more. -/
structure IsEncodable (val : Decimal) (scale : ℤ) : Prop where
  near : scale.natAbs ≤ 2000238
  small : |val.value * 10 ^ scale| < 10 ^ (120 : ℤ) - 1 / 2

/-- A number that stays below the largest exponent when it is rounded to 120 digits. -/
def IsTellable (val : Decimal) : Prop := |val.value| < 10 ^ (1000000 : ℤ) - 10 ^ (999880 : ℤ) / 2

/-- The integer that a scaled number is encoded as: the number is rounded to 120 digits, and then to
an integer. -/
def encodedInteger (x : ℚ) : ℤ := nearestInteger (encodedLimits.roundedValue x)

variable {val : Decimal} {scale : ℤ}

/-- A number is encodable if its scale is in reach and the scaled magnitude, rounded, has at most
120 digits before the point. -/
theorem isEncodable_iff : IsEncodable val scale ↔ scale.natAbs ≤ 2000238 ∧
    encodedLimits.rounded (val.magnitude * 10 ^ scale) < 10 ^ (120 : ℤ) := by
  have nonneg := IsCoerced.scaled_nonneg val scale
  have rounds :=
    Limits.rounded_lt_zpow_iff encodedLimits_isProper nonneg (by decide : _ < (120 : ℤ))
  have unit : (120 : ℤ) - encodedLimits.precision = 0 := rfl
  rw [rounds, unit, zpow_zero, ← abs_value_scaled]
  exact ⟨fun encodable => ⟨encodable.near, encodable.small⟩, fun bounds => ⟨bounds.1, bounds.2⟩⟩

/-- A number is tellable if its magnitude, rounded, does not overflow. -/
theorem isTellable_iff :
    IsTellable val ↔ encodedLimits.rounded val.magnitude < 10 ^ (encodedLimits.highest + 1) := by
  have rounds := Limits.rounded_lt_zpow_iff encodedLimits_isProper val.magnitude_nonneg
    (by decide : encodedLimits.lowest < encodedLimits.highest + 1)
  rw [rounds, ← abs_value]
  exact Iff.rfl

/-- The integer of a scaled value is found from the scaled magnitude, with the sign. -/
theorem encodedInteger_value_scaled (val : Decimal) (scale : ℤ) :
    encodedInteger (val.value * 10 ^ scale) =
      if val.negative then -round (encodedLimits.rounded (val.magnitude * 10 ^ scale))
      else round (encodedLimits.rounded (val.magnitude * 10 ^ scale)) := by
  have nonneg := IsCoerced.scaled_nonneg val scale
  rw [value_scaled, encodedInteger, Limits.roundedValue,
    withSign_ite encodedLimits.rounded_zero nonneg]
  exact withSign_ite round_zero (encodedLimits.rounded_nonneg nonneg) val.negative

/-- An encodable number is encoded as its integer. -/
theorem IsEncodable.encode_eq (encodable : IsEncodable val scale) :
    (Value.number val scale).encode =
      .ok (.int (encodedInteger (val.value * 10 ^ scale))) := by
  obtain ⟨near, small⟩ := isEncodable_iff.mp encodable
  rw [Value.encode, Decimal.encode_eq near small, encodedInteger_value_scaled]
  rfl

/-- A number that has no integer is told in the error, if it can be. -/
theorem encode_of_not_isEncodable (large : ¬ IsEncodable val scale) :
    (Value.number val scale).encode =
      match val.render encodedLimits with
      | .ok text => .error (.ofCause (.coercion "encodable number" text))
      | .error signal => .error (.arithmetic signal) := by
  obtain ⟨signal, scaled⟩ := Decimal.scale_toInteger_eq val scale
  rw [if_neg (isEncodable_iff.not.mp large)] at scaled
  rw [Value.encode, Decimal.encode, scaled]
  cases val.render encodedLimits <;> rfl

/-- A tellable number is shown by a text that reads back as the number rounded to 120 digits. -/
theorem IsTellable.exists_render (tellable : IsTellable val) :
    ∃ text told, val.render encodedLimits = .ok text ∧ Coerce.decimal text = .ok told ∧
      told.value = encodedLimits.roundedValue val.value := by
  obtain ⟨text, told, renders, read, value⟩ := Decimal.ofToken?_render encodedLimits_isProper
    (by decide) (by decide) (isTellable_iff.mp tellable)
  refine ⟨text, told, renders, ?_, ?_⟩
  · rw [Coerce.decimal, read]
    rfl
  · rw [value, Limits.roundedValue_value]

/-- Showing a number that is not tellable overflows. -/
theorem render_of_not_isTellable (large : ¬ IsTellable val) :
    val.render encodedLimits = .error .overflow := by
  obtain ⟨fitted, -, fit⟩ := Limits.fit_spec encodedLimits_isProper val
  rw [if_neg (isTellable_iff.not.mp large)] at fit
  rw [Decimal.render, Limits.normalize, fit]
  rfl

/-- **The range of encoding.** Any number, with any scale, is encoded as an integer, or refused with
an error that tells it as a text of the same value to 120 digits, or ends in a signal. It is refused
where it is out of the range of the integers of 120 digits at its scale, and the signal takes the
place of the error where it is moreover beyond the largest exponent. -/
theorem encode_number (val : Decimal) (scale : ℤ) :
    (IsEncodable val scale → (Value.number val scale).encode =
      .ok (.int (encodedInteger (val.value * 10 ^ scale)))) ∧
    (¬ IsEncodable val scale → IsTellable val → ∃ text told,
      (Value.number val scale).encode =
        .error (.ofCause (.coercion "encodable number" text)) ∧
      Coerce.decimal text = .ok told ∧ told.value = encodedLimits.roundedValue val.value) ∧
    (¬ IsEncodable val scale → ¬ IsTellable val →
      (Value.number val scale).encode = .error (.arithmetic .overflow)) := by
  refine ⟨IsEncodable.encode_eq, ?_, ?_⟩
  · intro large tellable
    obtain ⟨text, told, renders, read, value⟩ := tellable.exists_render
    exact ⟨text, told, by rw [encode_of_not_isEncodable large, renders], read, value⟩
  · intro large beyond
    rw [encode_of_not_isEncodable large, render_of_not_isTellable beyond]

/-- The first power of ten beyond the largest exponent. -/
def beyondExponents : Decimal := ⟨false, 1, 1000000⟩

/-- The number is the millionth power of ten. -/
theorem value_beyondExponents : beyondExponents.value = 10 ^ (1000000 : ℤ) := by
  have value : beyondExponents.value = (1 : Nat) * 10 ^ (1000000 : ℤ) := rfl
  rw [value, Nat.cast_one, one_mul]

/-- It is not tellable. -/
theorem not_isTellable_beyondExponents : ¬ IsTellable beyondExponents := by
  have power : (0 : ℚ) < 10 ^ (1000000 : ℤ) := zpow_pos (by norm_num) _
  have unit : (0 : ℚ) < 10 ^ (999880 : ℤ) := zpow_pos (by norm_num) _
  rw [IsTellable, value_beyondExponents, abs_of_pos power]
  exact (sub_lt_self _ (half_pos unit)).not_gt

/-- Such a number is encoded where its scale makes it small; a smaller one that has no integer of
120 digits is told as such, and the number itself, with no scale, can neither be encoded nor told.
-/
theorem encode_number_beyondExponents :
    (Value.number beyondExponents (-999990)).encode =
        .ok (.int (encodedInteger (beyondExponents.value * 10 ^ (-999990 : ℤ)))) ∧
    (∃ text told, (Value.number ⟨true, 5, 119⟩ 1).encode =
        .error (.ofCause (.coercion "encodable number" text)) ∧
      Coerce.decimal text = .ok told ∧
      told.value = encodedLimits.roundedValue (⟨true, 5, 119⟩ : Decimal).value) ∧
    (Value.number beyondExponents 0).encode = .error (.arithmetic .overflow) := by
  refine ⟨(encode_number _ _).1 ?_, (encode_number _ _).2.1 ?_ ?_,
    (encode_number _ _).2.2 ?_ not_isTellable_beyondExponents⟩
  · have scaledDown : beyondExponents.value * 10 ^ (-999990 : ℤ) = 10 ^ (10 : ℤ) := by
      rw [value_beyondExponents, ← zpow_add₀ (by norm_num)]
      rfl
    refine ⟨by decide, ?_⟩
    rw [scaledDown]
    norm_num
  · rintro ⟨-, small⟩
    rw [abs_value_scaled, Decimal.magnitude] at small
    norm_num at small
  · rw [isTellable_iff]
    have below : (⟨true, 5, 119⟩ : Decimal).magnitude ≤ 10 ^ (120 : ℤ) := by
      rw [Decimal.magnitude]
      norm_num
    exact (Limits.rounded_le_zpow encodedLimits_isProper (Decimal.magnitude_nonneg _) (by decide)
      below).trans_lt (zpow_lt_zpow_right₀ (by norm_num) (by decide))
  · rintro ⟨-, small⟩
    have large : (10 : ℚ) ^ (120 : ℤ) ≤ 10 ^ (1000000 : ℤ) :=
      zpow_le_zpow_right₀ (by norm_num) (by decide)
    rw [value_beyondExponents, zpow_zero, mul_one, abs_of_pos (zpow_pos (by norm_num) _)] at small
    exact (sub_lt_self _ one_half_pos).not_gt (large.trans_lt small)

/-- The encoding of a number beyond the largest exponent ends neither in an integer nor in a
coercion error. -/
theorem encode_eq_overflow :
    (Value.number beyondExponents 0).encode = .error (.arithmetic .overflow) ∧
      ¬ ((∃ n, (Value.number beyondExponents 0).encode = .ok (.int n)) ∨
        ∃ expected received, (Value.number beyondExponents 0).encode =
          .error (.ofCause (.coercion expected received))) := by
  have signals : (Value.number beyondExponents 0).encode = .error (.arithmetic .overflow) := rfl
  refine ⟨signals, ?_⟩
  rintro (⟨n, encodes⟩ | ⟨expected, received, refused⟩)
  · cases signals.symm.trans encodes
  · cases signals.symm.trans refused

end Playbook
