import Playbook.Decimal.Numeral
import Playbook.Proofs.Decimal.Precision
import Playbook.Value.Printer

/-! # Shown numbers are read back

The positional notation of a number is a numeral for it, as long as its exponents are in the range
of numerals. So the text that is shown of a number reads as the number rounded to the limits of the
text.
-/

namespace Playbook.Decimal

/-! ### Digits -/

/-- The value of a decimal digit of the ASCII script. -/
def digitOf (c : Char) : Nat := c.toNat - '0'.toNat

/-- A digit within ASCII has the value that its place among the digits gives. -/
theorem digitValue?_of_isDigit {c : Char} (digit : c.isDigit) :
    Text.digitValue? c = some (digitOf c) := by
  have run : (decide (0x30 ≤ c.toNat) && decide (c.toNat < 0x30 + 10)) = true := by
    simp only [Char.isDigit, Bool.and_eq_true, decide_eq_true_eq, UInt32.le_iff_toNat_le] at digit
    simp only [Char.toNat, Bool.and_eq_true, decide_eq_true_eq]
    have low : '0'.val.toNat = 48 := rfl
    have high : '9'.val.toNat = 57 := rfl
    omega
  have found : Text.digitZeros.find?
      (fun first => first ≤ c.toNat && c.toNat < first + 10) = some 0x30 :=
    List.find?_cons_of_pos run
  rw [Text.digitValue?, found]
  rfl

namespace Numeral

/-- All digits at the start of a text are taken, up to what is no digit. -/
theorem takeDigits_append {digits : List Char} (rest : List Char) (all : ∀ c ∈ digits, c.isDigit)
    (ends : ∀ c ∈ rest.head?, Text.digitValue? c = none) :
    takeDigits (digits ++ rest) = (digits.map digitOf, rest) := by
  induction digits with
  | nil =>
      cases rest with
      | nil => rfl
      | cons c rest =>
          have ended : Text.digitValue? c = none := ends c rfl
          simp [takeDigits, ended]
  | cons c digits ih =>
      obtain ⟨digit, others⟩ := List.forall_mem_cons.mp all
      simp [takeDigits, digitValue?_of_isDigit digit, ih others]

/-- The digits of a numeral are summed as those of a natural number. -/
theorem natOfDigits_map (digits : List Char) :
    natOfDigits (digits.map digitOf) = Nat.ofDigitChars 10 digits 0 := by
  rw [natOfDigits, List.foldl_map, Nat.ofDigitChars]
  rfl

/-- Digits without a point are a whole number. -/
theorem takeMantissa?_whole {whole : List Char} (all : ∀ c ∈ whole, c.isDigit)
    (nonempty : whole ≠ []) :
    takeMantissa? whole = some (whole.map digitOf, [], []) := by
  have taken := takeDigits_append [] all (by simp)
  rw [List.append_nil] at taken
  obtain ⟨first, others, rfl⟩ := List.exists_cons_of_ne_nil nonempty
  rw [takeMantissa?, taken]
  rfl

/-- Digits with a point among them are a whole part and a fraction. -/
theorem takeMantissa?_pointed {whole fraction : List Char} (all : ∀ c ∈ whole, c.isDigit)
    (allAfter : ∀ c ∈ fraction, c.isDigit) (nonempty : whole ≠ []) :
    takeMantissa? (whole ++ '.' :: fraction) =
      some (whole.map digitOf, fraction.map digitOf, []) := by
  have point : ∀ c ∈ ('.' :: fraction).head?, Text.digitValue? c = none := by
    intro c member
    obtain rfl := Option.mem_some.mp member
    decide
  have taken := takeDigits_append _ all point
  have takenAfter := takeDigits_append [] allAfter (by simp)
  rw [List.append_nil] at takenAfter
  obtain ⟨first, others, rfl⟩ := List.exists_cons_of_ne_nil nonempty
  rw [takeMantissa?, taken]
  simp [takenAfter]

/-- A text that starts with a digit has no sign to take. -/
theorem takeSign_of_digit {first : Char} (text : List Char) (digit : first.isDigit) :
    takeSign (first :: text) = (false, first :: text) := by
  have notMinus : first ≠ '-' := by rintro rfl; exact absurd digit (by decide)
  have notPlus : first ≠ '+' := by rintro rfl; exact absurd digit (by decide)
  simp [takeSign, notMinus, notPlus]

/-- A mantissa after an optional minus is a numeral. -/
theorem ofText?_of_mantissa {text : List Char} {whole fraction : List Nat}
    (starts : ∀ c ∈ text.head?, c.isDigit)
    (mantissa : takeMantissa? text = some (whole, fraction, [])) (negative : Bool) :
    ofText? (if negative then '-' :: text else text) =
      some ⟨negative, whole ++ fraction, fraction.length, 0⟩ := by
  cases negative with
  | true => simp [ofText?, takeSign, mantissa, power?]
  | false =>
      cases text with
      | nil => cases mantissa
      | cons first text =>
          have unsigned := takeSign_of_digit text (starts first rfl)
          simp [ofText?, unsigned, mantissa, power?]

end Numeral

/-- A text without line breaks has none to drop at its end. -/
theorem dropLineBreak_eq_self {text : List Char} (oneLine : '\n' ∉ text) :
    dropLineBreak text = text := by
  refine if_neg fun last => oneLine ?_
  exact List.mem_of_getLast? last

/-! ### Positional notation -/

/-- The digits of a number in positional notation: those of the whole part, which are never missing,
and those of the fraction. -/
theorem exists_positional (d : Decimal) :
    ∃ whole fraction : List Char, whole ≠ [] ∧ (∀ c ∈ whole ++ fraction, c.isDigit) ∧
      d.positional.toList =
        (let text := if 0 ≤ d.exponent then whole else whole ++ '.' :: fraction
         if d.negative then '-' :: text else text) ∧
      Nat.ofDigitChars 10 (whole ++ fraction) 0 = d.coefficient * tenTo d.exponent.toNat ∧
      (fraction.length : ℤ) = (-d.exponent).toNat := by
  have allDigits : ∀ c ∈ Nat.toDigits 10 d.coefficient, c.isDigit := fun c member =>
    Nat.isDigit_of_mem_toDigits (by decide) (by decide) member
  have allZeros : ∀ {count : Nat}, ∀ c ∈ List.replicate count '0', c.isDigit := by
    intro count c member
    rw [List.eq_of_mem_replicate member]
    decide
  by_cases whole : 0 ≤ d.exponent
  · refine ⟨Nat.toDigits 10 d.coefficient ++ List.replicate d.exponent.toNat '0', [],
      ?_, ?_, ?_, ?_, ?_⟩
    · simp
    · intro c member
      rw [List.append_nil, List.mem_append] at member
      exact member.elim (allDigits c) (allZeros c)
    · simp [positional, whole]
    · have power : tenTo d.exponent.toNat = 10 ^ d.exponent.toNat := rfl
      rw [List.append_nil, Nat.ofDigitChars_append, Nat.ofDigitChars_ten_toDigits,
        Nat.ofDigitChars_replicate_zero, power, Nat.mul_comm]
    · simp [whole]
  · -- enough zeros are put before the digits for one of them to stand before the point
    let digits := Nat.toDigits 10 d.coefficient
    let filled := List.replicate (d.exponent.natAbs + 1 - digits.length) '0' ++ digits
    have long : d.exponent.natAbs < filled.length := by
      simp only [filled, List.length_append, List.length_replicate]
      omega
    refine ⟨filled.take (filled.length - d.exponent.natAbs),
      filled.drop (filled.length - d.exponent.natAbs), ?_, ?_, ?_, ?_, ?_⟩
    · rw [← List.length_pos_iff, List.length_take]
      omega
    · rw [List.take_append_drop]
      intro c member
      exact (List.mem_append.mp member).elim (allZeros c) (allDigits c)
    · simp [positional, whole, filled, digits]
    · have noShift : d.exponent.toNat = 0 := by omega
      have power : tenTo 0 = 1 := rfl
      rw [List.take_append_drop, Nat.ofDigitChars_append, Nat.ofDigitChars_replicate_zero,
        Nat.mul_zero, Nat.ofDigitChars_ten_toDigits, noShift, power, Nat.mul_one]
    · rw [List.length_drop]
      omega

/-- A number in positional notation: with no power of ten above the places after the point. -/
def unfolded (d : Decimal) : Decimal where
  negative := d.negative
  coefficient := d.coefficient * tenTo d.exponent.toNat
  exponent := -(-d.exponent).toNat

/-- Writing out the exponent keeps the magnitude. -/
theorem magnitude_unfolded (d : Decimal) : d.unfolded.magnitude = d.magnitude := by
  by_cases whole : 0 ≤ d.exponent
  · have noPlaces : (-d.exponent).toNat = 0 := by omega
    rw [magnitude_of_exponent_nonneg whole, magnitude, unfolded, noPlaces]
    simp
  · have noShift : d.exponent.toNat = 0 := by omega
    have places : -((-d.exponent).toNat : ℤ) = d.exponent := by omega
    have power : tenTo 0 = 1 := rfl
    rw [magnitude, unfolded, noShift, places, power, Nat.mul_one]
    rfl

/-- Writing out the exponent keeps the value. -/
theorem value_unfolded (d : Decimal) : d.unfolded.value = d.value :=
  value_eq_of_magnitude rfl d.magnitude_unfolded

/-- The positional text of a number is a numeral with its sign and without exponent, and the digits
are those of the number with its exponent written out. -/
theorem numeral?_positional (d : Decimal) : ∃ digits places,
    numeral? d.positional = some ⟨d.negative, digits, places, 0⟩ ∧
      Numeral.natOfDigits digits = d.coefficient * tenTo d.exponent.toNat ∧
      (places : ℤ) = (-d.exponent).toNat := by
  obtain ⟨whole, fraction, nonempty, all, text, number, places⟩ := exists_positional d
  have allWhole : ∀ c ∈ whole, c.isDigit := fun c member => all c (List.mem_append_left _ member)
  have allFraction : ∀ c ∈ fraction, c.isDigit := fun c member =>
    all c (List.mem_append_right _ member)
  have starts : ∀ {after : List Char}, ∀ c ∈ (whole ++ after).head?, c.isDigit := by
    intro after c member
    obtain ⟨first, others, rfl⟩ := List.exists_cons_of_ne_nil nonempty
    obtain rfl := Option.mem_some.mp member
    exact allWhole _ List.mem_cons_self
  have oneLine : '\n' ∉ d.positional.toList := by
    have noBreak : ∀ c : Char, c.isDigit → '\n' ≠ c := by
      rintro c digit rfl
      exact absurd digit (by decide)
    have noneWhole : '\n' ∉ whole := fun member => noBreak _ (allWhole _ member) rfl
    have noneFraction : '\n' ∉ fraction := fun member => noBreak _ (allFraction _ member) rfl
    rw [text]
    dsimp only
    split_ifs <;> simp [noneWhole, noneFraction]
  refine ⟨(whole ++ fraction).map digitOf, fraction.length, ?_, ?_, places⟩
  · rw [numeral?, dropLineBreak_eq_self oneLine, text]
    dsimp only
    by_cases integral : 0 ≤ d.exponent
    · have noPlaces : fraction = [] := by
        rw [← List.length_eq_zero_iff]
        omega
      subst noPlaces
      have mantissa := Numeral.takeMantissa?_whole allWhole nonempty
      have starts := @starts []
      rw [List.append_nil] at starts
      simpa [integral] using Numeral.ofText?_of_mantissa starts mantissa d.negative
    · have mantissa := Numeral.takeMantissa?_pointed allWhole allFraction nonempty
      simpa [integral] using Numeral.ofText?_of_mantissa starts mantissa d.negative
  · rw [Numeral.natOfDigits_map, number]

/-- The positional notation of a number is read as a number of the same value. -/
theorem ofToken?_positional {d : Decimal} (nonzero : d.isZero = false)
    (high : d.adjusted ≤ Numeral.maxAdjusted) (low : Numeral.minExponent ≤ d.exponent) :
    ofToken? d.positional = some d.unfolded := by
  obtain ⟨digits, places, read, number, count⟩ := numeral?_positional d
  have nonzeroToo : d.unfolded.isZero = false := by
    rw [Bool.eq_false_iff, Ne, ← magnitude_eq_zero_iff, magnitude_unfolded]
    exact (magnitude_pos nonzero).ne'
  have adjusted : d.unfolded.adjusted = d.adjusted := by
    rw [← log_magnitude nonzeroToo, ← log_magnitude nonzero, magnitude_unfolded]
  have denotes : ({ negative := d.negative, coefficient := Numeral.natOfDigits digits
                    exponent := 0 - (places : ℤ) } : Decimal) = d.unfolded := by
    rw [number, count, Int.zero_sub]
    rfl
  have inRange : d.unfolded.adjusted ≤ Numeral.maxAdjusted ∧
      Numeral.minExponent ≤ d.unfolded.exponent := by
    refine ⟨adjusted.le.trans high, ?_⟩
    unfold Numeral.minExponent at low ⊢
    simp only [unfolded]
    omega
  rw [ofToken?, read, Option.bind_eq_bind, Option.bind_some, Numeral.toDecimal?, denotes,
    if_pos inRange]

/-! ### Shown numbers -/

/-- Stripping zeros at the end keeps the number and does not lower the exponent. -/
theorem stripZeros_spec (coefficient : Nat) (exponent : ℤ) :
    ((stripZeros coefficient exponent).1 : ℚ) * 10 ^ (stripZeros coefficient exponent).2 =
        coefficient * 10 ^ exponent ∧
      exponent ≤ (stripZeros coefficient exponent).2 := by
  fun_induction stripZeros coefficient exponent with
  | case1 coefficient exponent strips ih =>
      obtain ⟨same, above⟩ := ih
      have tenfold : (coefficient : ℚ) = (coefficient / 10 : Nat) * 10 := by
        exact_mod_cast (Nat.div_mul_cancel (Nat.dvd_of_mod_eq_zero strips.2)).symm
      refine ⟨?_, by omega⟩
      rw [same, zpow_add_one₀ (by norm_num : (10 : ℚ) ≠ 0), tenfold]
      ring
  | case2 coefficient exponent ended => exact ⟨rfl, le_rfl⟩

/-- A number that is not zero is reduced by stripping the zeros at its end. -/
theorem reduce_of_nonzero {d : Decimal} (nonzero : d.isZero = false) :
    d.reduce = { d with coefficient := (stripZeros d.coefficient d.exponent).1
                        exponent := (stripZeros d.coefficient d.exponent).2 } := by
  rw [reduce, nonzero, if_neg Bool.false_ne_true]

/-- Reducing a number keeps the magnitude. -/
theorem magnitude_reduce {d : Decimal} (nonzero : d.isZero = false) :
    d.reduce.magnitude = d.magnitude := by
  rw [reduce_of_nonzero nonzero]
  exact (stripZeros_spec d.coefficient d.exponent).1

/-- Reducing a number keeps the value. -/
theorem value_reduce {d : Decimal} (nonzero : d.isZero = false) : d.reduce.value = d.value := by
  refine value_eq_of_magnitude ?_ (magnitude_reduce nonzero)
  rw [reduce_of_nonzero nonzero]

/-- Reducing a number neither makes nor removes a zero. -/
theorem isZero_reduce (d : Decimal) : d.reduce.isZero = d.isZero := by
  cases zero : d.isZero with
  | true => rw [reduce, if_pos zero, ← zero, isZero, isZero]
  | false =>
      rw [Bool.eq_false_iff, Ne, ← magnitude_eq_zero_iff, magnitude_reduce zero]
      exact (magnitude_pos zero).ne'

/-- What is shown of a number within limits that numerals can hold is read as the number rounded to
the limits. -/
theorem ofToken?_render {limits : Limits} (proper : limits.IsProper)
    (high : limits.highest ≤ Numeral.maxAdjusted) (low : Numeral.minExponent ≤ limits.tiny)
    {d : Decimal} (bounded : limits.rounded d.magnitude < 10 ^ (limits.highest + 1)) :
    ∃ text shown, d.render limits = .ok text ∧ ofToken? text = some shown ∧
      shown.value =
        if d.negative then -limits.rounded d.magnitude else limits.rounded d.magnitude := by
  obtain ⟨fitted, fit, fits⟩ := Limits.fit_eq_ok proper d bounded
  have rendered : d.render limits =
      .ok (if fitted.reduce.isZero then "0" else fitted.reduce.positional) := by
    rw [render, Limits.normalize, fit]
    rfl
  have value : fitted.value =
      if d.negative then -limits.rounded d.magnitude else limits.rounded d.magnitude := by
    rw [Decimal.value, fits.sign, fits.magnitude]
  rw [rendered, isZero_reduce, ← value]
  cases zero : fitted.isZero with
  | true =>
      refine ⟨"0", ⟨false, 0, 0⟩, rfl, rfl, ?_⟩
      have shownZero : (⟨false, 0, 0⟩ : Decimal).value = 0 := by simp [Decimal.value, magnitude]
      rw [shownZero, eq_comm, ← abs_eq_zero, abs_value, magnitude_eq_zero_iff]
      exact zero
  | false =>
      have nonzero : fitted.reduce.isZero = false := by rw [isZero_reduce, zero]
      have adjusted : fitted.reduce.adjusted ≤ limits.highest := by
        rw [← Int.lt_add_one_iff, ← magnitude_lt_zpow_iff nonzero, magnitude_reduce zero,
          fits.magnitude]
        exact bounded
      have exponent : limits.tiny ≤ fitted.reduce.exponent := by
        rw [reduce_of_nonzero zero]
        exact fits.tiny_le.trans (stripZeros_spec _ _).2
      refine ⟨_, fitted.reduce.unfolded, rfl,
        ofToken?_positional nonzero (adjusted.trans high) (low.trans exponent), ?_⟩
      rw [value_unfolded, value_reduce zero]

end Playbook.Decimal
