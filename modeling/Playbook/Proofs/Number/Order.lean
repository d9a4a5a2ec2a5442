import Playbook.Proofs.Number.Range

/-! # The order of encoded numbers

What a number is encoded as depends on its value alone, however it is written. Each of the two steps
of rounding keeps the order of numbers and takes opposite numbers to opposite ones, and so does the
whole, also where the first step lifts a number over a half.
-/

namespace Playbook

open Decimal

/-- The opposite number is encoded as the opposite integer. -/
theorem encodedInteger_neg (x : ℚ) : encodedInteger (-x) = -encodedInteger x := by
  have opposite : encodedLimits.roundedValue (-x) = -encodedLimits.roundedValue x :=
    withSign_neg encodedLimits.rounded_zero x
  rw [encodedInteger, opposite]
  exact withSign_neg round_zero _

/-- Encoding keeps the order. -/
theorem encodedInteger_mono {x y : ℚ} (ordered : x ≤ y) : encodedInteger x ≤ encodedInteger y := by
  have kept : encodedLimits.roundedValue x ≤ encodedLimits.roundedValue y :=
    withSign_mono encodedLimits.rounded_zero (Limits.rounded_mono encodedLimits_isProper) ordered
  refine withSign_mono round_zero (fun _ ordered => ?_) kept
  rw [round_eq, round_eq]
  exact Int.floor_mono (add_le_add_left ordered _)

/-- A number that was coerced is within the range of encoding. -/
theorem IsCoerced.isEncodable {val : Decimal} {scale : ℤ} (coerced : IsCoerced val scale) :
    IsEncodable val scale := by
  refine ⟨?_, ?_⟩
  · rcases coerced.scaled with rfl | rfl <;> decide
  · rw [abs_value_scaled]
    exact coerced.lt_wordBound.trans (by norm_num)

/-- A token is read as the number that it denotes, with the scale of the coercion. -/
theorem Coerce.exists_scale_of_listed {coercion : Coercion}
    (listed : coercion ∈ [Coerce.number, Coerce.mantissa]) :
    ∃ scale, ∀ {world : World} {token : String} {quoted : Bool} {datum : Datum},
      coercion world (some (.atom token quoted)) = .ok datum →
        ∃ val, decimal token = .ok val ∧ datum = .value (.number val scale) ∧
          IsCoerced val scale := by
  have ofScale : ∀ scale : ℤ, scale = 0 ∨ scale = mantissaScale →
      ∀ {world : World} {token : String} {quoted : Bool} {datum : Datum},
        ofEvent "number" (fun _ => numberOfEvent scale) world (some (.atom token quoted)) =
          .ok datum →
          ∃ val, decimal token = .ok val ∧ datum = .value (.number val scale) ∧
            IsCoerced val scale := by
    intro scale scaled world token quoted datum reads
    obtain ⟨_, value, ⟨⟩, read, rfl⟩ := ofEvent_eq_ok reads
    obtain ⟨val, denoted, rfl, coerced⟩ := scaledNumber_eq_ok scaled read
    exact ⟨val, denoted, rfl, coerced⟩
  simp only [List.mem_cons, List.not_mem_nil, or_false] at listed
  rcases listed with rfl | rfl
  · exact ⟨0, ofScale 0 (.inl rfl)⟩
  · exact ⟨mantissaScale, ofScale mantissaScale (.inr rfl)⟩

/-- **Order.** Two tokens that are read as numbers by one coercion are encoded in the order of the
numbers that they denote: opposite numbers as opposite integers, and one number as one integer,
whatever its notation. -/
theorem encode_keepsOrder_of_reads {coercion : Coercion}
    (listed : coercion ∈ [Coerce.number, Coerce.mantissa]) {world other : World}
    {left right : String} {leftQuoted rightQuoted : Bool} {first second : Datum}
    (reads : coercion world (some (.atom left leftQuoted)) = .ok first)
    (readsToo : coercion other (some (.atom right rightQuoted)) = .ok second) :
    ∃ x y scale m n, Coerce.decimal left = .ok x ∧ Coerce.decimal right = .ok y ∧
      first = .value (.number x scale) ∧ second = .value (.number y scale) ∧
      (Value.number x scale).encode = .ok (.int m) ∧ (Value.number y scale).encode = .ok (.int n) ∧
      (x.value ≤ y.value → m ≤ n) ∧ (x.value = -y.value → m = -n) ∧
      (x.value = y.value → m = n) := by
  obtain ⟨scale, reading⟩ := Coerce.exists_scale_of_listed listed
  obtain ⟨x, denotes, rfl, coerced⟩ := reading reads
  obtain ⟨y, denotesToo, rfl, coercedToo⟩ := reading readsToo
  have power : (0 : ℚ) ≤ 10 ^ scale := (zpow_pos (by norm_num) scale).le
  refine ⟨x, y, scale, _, _, denotes, denotesToo, rfl, rfl, coerced.isEncodable.encode_eq,
    coercedToo.isEncodable.encode_eq, ?_, ?_, ?_⟩
  · intro ordered
    exact encodedInteger_mono (mul_le_mul_of_nonneg_right ordered power)
  · intro opposite
    rw [opposite, neg_mul, encodedInteger_neg]
  · intro same
    rw [same]

/-- A number that is lifted to one half stays in order with one half itself, however that is
written. -/
theorem encode_keepsOrder_of_reads_belowHalf :
    ∃ m n,
      Coerce.number {} (some (.bare (String.ofList ("0.4".toList ++ List.replicate 120 '9')))) =
        .ok (.value (.number belowHalf 0)) ∧
      Coerce.number {} (some (.bare "+00.5e0")) = .ok (.value (.number ⟨false, 5, -1⟩ 0)) ∧
      (Value.number belowHalf 0).encode = .ok (.int m) ∧
      (Value.number ⟨false, 5, -1⟩ 0).encode = .ok (.int n) ∧ m ≤ n := by
  have reads : Coerce.number {} (some (.bare "+00.5e0")) =
      .ok (.value (.number ⟨false, 5, -1⟩ 0)) := rfl
  obtain ⟨x, y, scale, m, n, -, -, first, second, encodes, encodesToo, ordered, -, -⟩ :=
    encode_keepsOrder_of_reads List.mem_cons_self number_belowHalf reads
  obtain ⟨rfl, rfl⟩ := Value.number.inj (Datum.value.inj first)
  obtain ⟨rfl, -⟩ := Value.number.inj (Datum.value.inj second)
  have below : belowHalf.value ≤ (⟨false, 5, -1⟩ : Decimal).value := by
    norm_num [belowHalf, Decimal.value, Decimal.magnitude]
  exact ⟨m, n, number_belowHalf, reads, encodes, encodesToo, ordered below⟩

end Playbook
