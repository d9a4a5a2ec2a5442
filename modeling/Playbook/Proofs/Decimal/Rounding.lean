import Mathlib.Algebra.Order.Round
import Mathlib.Tactic.FieldSimp
import Playbook.Proofs.Decimal.Value

/-! # Rounding

Arithmetic of limited precision rounds a magnitude to the nearest multiple of a power of ten, which
is the distance of neighbouring numbers around the magnitude. What an operation gives depends on the
value of its operand alone, and keeps the order of values.
-/

namespace Playbook.Decimal

/-! ### The nearest integer -/

/-- The integer nearest to a rational number that is not below zero. -/
def Tie.nearest (tie : Tie) (x : ℚ) : ℤ :=
  if 1 / 2 < Int.fract x ∨ Int.fract x = 1 / 2 ∧ (tie = .upward ∨ Odd ⌊x⌋) then ⌊x⌋ + 1 else ⌊x⌋

namespace Tie

variable {tie : Tie} {x y : ℚ}

/-- The nearest integer is no more than a half away. -/
theorem abs_nearest_sub_le (tie : Tie) (x : ℚ) : |(tie.nearest x : ℚ) - x| ≤ 1 / 2 := by
  have split := Int.floor_add_fract x
  have fraction := Int.fract_lt_one x
  have nonneg := Int.fract_nonneg x
  rw [abs_le]
  unfold nearest
  split_ifs with up
  · have half : 1 / 2 ≤ Int.fract x := up.elim le_of_lt fun tied => tied.1.ge
    push_cast
    constructor <;> linarith
  · rw [not_or, not_lt] at up
    constructor <;> linarith [up.1]

/-- The nearest integer is no more than a half above. -/
theorem nearest_le_add_half (tie : Tie) (x : ℚ) : (tie.nearest x : ℚ) ≤ x + 1 / 2 := by
  linarith [(abs_le.mp (abs_nearest_sub_le tie x)).2]

/-- The nearest integer is no more than a half below. -/
theorem sub_half_le_nearest (tie : Tie) (x : ℚ) : x - 1 / 2 ≤ tie.nearest x := by
  linarith [(abs_le.mp (abs_nearest_sub_le tie x)).1]

/-- The integer nearest to an integer is that integer. -/
@[simp] theorem nearest_intCast (tie : Tie) (n : ℤ) : tie.nearest n = n := by
  simp [nearest, Int.fract_intCast]

/-- Rounding to the nearest integer keeps the order. -/
theorem nearest_mono (tie : Tie) (ordered : x ≤ y) : tie.nearest x ≤ tie.nearest y := by
  by_contra reversed
  have apart : (tie.nearest y : ℚ) + 1 ≤ tie.nearest x := by
    exact_mod_cast Int.add_one_le_iff.mpr (not_le.mp reversed)
  have same : x = y := by
    linarith [nearest_le_add_half tie x, sub_half_le_nearest tie y]
  rw [same] at reversed
  exact reversed le_rfl

/-- Where a half is rounded upward, the nearest integer is the usual one. -/
theorem nearest_upward (x : ℚ) : Tie.upward.nearest x = round x := by
  have split := Int.floor_add_fract x
  have fraction := Int.fract_lt_one x
  have nonneg := Int.fract_nonneg x
  symm
  rw [round_eq, Int.floor_eq_iff]
  unfold nearest
  split_ifs with up
  · have half : 1 / 2 ≤ Int.fract x := up.elim le_of_lt fun tied => tied.1.ge
    push_cast
    constructor <;> linarith
  · rw [not_or, not_lt] at up
    have below : Int.fract x < 1 / 2 := lt_of_le_of_ne up.1 fun tied => up.2 ⟨tied, .inl rfl⟩
    constructor <;> linarith

/-- An even integer attracts all that is no more than a half below it. -/
theorem even_le_nearest_iff {n : ℤ} (even : Even n) : n ≤ Tie.toEven.nearest x ↔ n - 1 / 2 ≤ x := by
  constructor
  · intro reached
    have : (n : ℚ) ≤ Tie.toEven.nearest x := by exact_mod_cast reached
    linarith [nearest_le_add_half .toEven x]
  · intro close
    rcases close.lt_or_eq with closer | tied
    · have above : (n : ℚ) - 1 < Tie.toEven.nearest x := by
        linarith [sub_half_le_nearest .toEven x]
      have : n - 1 < Tie.toEven.nearest x := by exact_mod_cast above
      omega
    · -- half way below an even integer stands an odd one
      have floor : ⌊x⌋ = n - 1 := by
        rw [Int.floor_eq_iff]
        push_cast
        constructor <;> linarith
      have half : Int.fract x = 1 / 2 := by
        rw [Int.fract, floor]
        push_cast
        linarith
      have odd : Odd ⌊x⌋ := floor ▸ even.sub_odd odd_one
      rw [nearest, if_pos (.inr ⟨half, .inr odd⟩), floor]
      omega

end Tie

/-- Rounding a quotient of natural numbers gives the nearest integer. -/
theorem roundDiv_eq_nearest (tie : Tie) (n : Nat) {divisor : Nat} (positive : 0 < divisor) :
    (roundDiv tie n divisor : ℤ) = tie.nearest (n / divisor) := by
  have pos : (0 : ℚ) < divisor := by exact_mod_cast positive
  have floor : ⌊(n : ℚ) / divisor⌋ = (n / divisor : Nat) := by
    rw [Rat.floor_natCast_div_natCast, Int.natCast_ediv]
  have fraction : Int.fract ((n : ℚ) / divisor) = (n % divisor : Nat) / divisor := by
    have whole : ((divisor * (n / divisor) + n % divisor : Nat) : ℚ) = n := by rw [Nat.div_add_mod]
    rw [Int.fract, floor, Int.cast_natCast, sub_eq_iff_eq_add, ← whole, Nat.cast_add, Nat.cast_mul]
    field_simp
    ring
  have above : 1 / 2 < Int.fract ((n : ℚ) / divisor) ↔ divisor < 2 * (n % divisor) := by
    rw [fraction, div_lt_div_iff₀ two_pos pos, one_mul, mul_comm]
    exact_mod_cast Iff.rfl
  have tied : Int.fract ((n : ℚ) / divisor) = 1 / 2 ↔ 2 * (n % divisor) = divisor := by
    rw [fraction, div_eq_div_iff pos.ne' two_ne_zero, one_mul, mul_comm]
    exact_mod_cast Iff.rfl
  have odd : Odd ⌊(n : ℚ) / divisor⌋ ↔ n / divisor % 2 = 1 := by
    rw [floor, Int.odd_coe_nat, Nat.odd_iff]
  unfold Tie.nearest roundDiv
  simp only [above, tied, odd]
  rw [floor]
  cases tie
  · by_cases up : divisor < 2 * (n % divisor) ∨
        2 * (n % divisor) = divisor ∧ n / divisor % 2 = 1
    · simp [up]
    · simp [up]
  · by_cases up : divisor ≤ 2 * (n % divisor)
    · have : divisor < 2 * (n % divisor) ∨ 2 * (n % divisor) = divisor := by omega
      simp [up, this]
    · have : ¬ (divisor < 2 * (n % divisor) ∨ 2 * (n % divisor) = divisor) := by omega
      simp [up, this]

/-- Dropping places is to divide by the power of ten and to round to the nearest integer. -/
theorem dropPlaces_eq_nearest (tie : Tie) (places n : Nat) :
    (dropPlaces tie places n : ℤ) = tie.nearest (n / 10 ^ (places : ℤ)) := by
  rw [dropPlaces_eq, roundDiv_eq_nearest tie n (tenTo_pos places), cast_tenTo]

end Playbook.Decimal
