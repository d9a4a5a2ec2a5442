import Playbook.Proofs.Decimal.Rounding

/-! # Limited precision

Fitting a number to limits rounds its magnitude to the nearest multiple of the distance at which the
limits keep numbers apart around it. The rounded magnitude depends on the magnitude alone; rounding
keeps the order and leaves every multiple of that distance as it is.
-/

namespace Playbook.Decimal.Limits

variable {limits : Limits} {x y b : ℚ}

/-- Limits that keep at least one digit and leave room for some exponent. -/
structure IsProper (limits : Limits) : Prop where
  digits : 0 < limits.precision
  range : limits.lowest ≤ limits.highest

/-- The exponent of the last digit that limits keep of a magnitude. -/
def lastPlace (limits : Limits) (x : ℚ) : ℤ :=
  max limits.lowest (Int.log 10 x) - (limits.precision - 1)

/-- The distance of neighbouring numbers within limits around a magnitude. -/
def quantum (limits : Limits) (x : ℚ) : ℚ := 10 ^ limits.lastPlace x

/-- A magnitude rounded to limits, a half to the even neighbour. -/
def rounded (limits : Limits) (x : ℚ) : ℚ :=
  Tie.toEven.nearest (x / limits.quantum x) * limits.quantum x

/-- The last place that is kept is found from the place of the first digit. -/
theorem lastPlace_eq {place : ℤ} (low : 10 ^ place ≤ x) (high : x < 10 ^ (place + 1))
    (normal : limits.lowest ≤ place) : limits.lastPlace x = place - (limits.precision - 1) := by
  have positive : 0 < x := (zpow_pos (by norm_num) place).trans_le low
  have atLeast := (Int.zpow_le_iff_le_log (b := 10) (by norm_num) positive).mp low
  have atMost := (Int.lt_zpow_iff_log_lt (b := 10) (by norm_num) positive).mp high
  unfold lastPlace
  omega

/-- Neighbouring numbers within limits are apart. -/
theorem quantum_pos (limits : Limits) (x : ℚ) : 0 < limits.quantum x := zpow_pos (by norm_num) _

/-! ### Multiples of the distance -/

/-- Holds of the multiples of the distance of neighbouring numbers around `x`. -/
def IsMultiple (limits : Limits) (x b : ℚ) : Prop := ∃ n : ℤ, b = n * limits.quantum x

/-- A number that ends at a place that limits keep is a multiple of the distance. -/
theorem isMultiple_natCast_mul_zpow (n : Nat) {place : ℤ} (kept : limits.lastPlace x ≤ place) :
    limits.IsMultiple x (n * 10 ^ place) := by
  obtain ⟨more, rfl⟩ := Int.le.dest kept
  refine ⟨n * 10 ^ more, ?_⟩
  rw [quantum, zpow_add₀ (by norm_num : (10 : ℚ) ≠ 0), zpow_natCast]
  push_cast
  ring

/-- A power of ten at a place that limits keep is a multiple of the distance. -/
theorem isMultiple_zpow {place : ℤ} (kept : limits.lastPlace x ≤ place) :
    limits.IsMultiple x (10 ^ place) := by
  simpa using isMultiple_natCast_mul_zpow 1 kept

/-- Rounding does not pass a multiple of the distance that lies above. -/
theorem rounded_le (multiple : limits.IsMultiple x b) (below : x ≤ b) : limits.rounded x ≤ b := by
  obtain ⟨n, rfl⟩ := multiple
  have quotient : x / limits.quantum x ≤ n := (div_le_iff₀ (limits.quantum_pos x)).mpr below
  have nearest := Tie.nearest_mono .toEven quotient
  rw [Tie.nearest_intCast] at nearest
  exact mul_le_mul_of_nonneg_right (by exact_mod_cast nearest) (limits.quantum_pos x).le

/-- Rounding does not pass a multiple of the distance that lies below. -/
theorem le_rounded (multiple : limits.IsMultiple x b) (above : b ≤ x) : b ≤ limits.rounded x := by
  obtain ⟨n, rfl⟩ := multiple
  have quotient : (n : ℚ) ≤ x / limits.quantum x := (le_div_iff₀ (limits.quantum_pos x)).mpr above
  have nearest := Tie.nearest_mono .toEven quotient
  rw [Tie.nearest_intCast] at nearest
  exact mul_le_mul_of_nonneg_right (by exact_mod_cast nearest) (limits.quantum_pos x).le

/-- A multiple of the distance stays as it is. -/
theorem rounded_of_isMultiple (multiple : limits.IsMultiple x x) : limits.rounded x = x :=
  le_antisymm (rounded_le multiple le_rfl) (le_rounded multiple le_rfl)

/-- Rounding takes every magnitude to a multiple of the distance. -/
theorem isMultiple_rounded (limits : Limits) (x : ℚ) : limits.IsMultiple x (limits.rounded x) :=
  ⟨_, rfl⟩

/-- Rounding keeps a magnitude if and only if it is a multiple of the distance around it. -/
theorem rounded_eq_self_iff : limits.rounded x = x ↔ limits.IsMultiple x x := by
  constructor
  · intro same
    have multiple := limits.isMultiple_rounded x
    rwa [same] at multiple
  · exact rounded_of_isMultiple

/-- Rounding moves a magnitude by no more than half the distance. -/
theorem abs_rounded_sub_le (limits : Limits) (x : ℚ) :
    |limits.rounded x - x| ≤ limits.quantum x / 2 := by
  have positive := limits.quantum_pos x
  have apart : limits.rounded x - x =
      (Tie.toEven.nearest (x / limits.quantum x) - x / limits.quantum x) * limits.quantum x := by
    rw [rounded, sub_mul, div_mul_cancel₀ x positive.ne']
  rw [apart, abs_mul, abs_of_pos positive]
  calc |(Tie.toEven.nearest (x / limits.quantum x) : ℚ) - x / limits.quantum x| * limits.quantum x
      ≤ 1 / 2 * limits.quantum x :=
        mul_le_mul_of_nonneg_right (Tie.abs_nearest_sub_le .toEven _) positive.le
    _ = limits.quantum x / 2 := by ring

/-- An even multiple of the distance is reached from half the distance below it. -/
theorem even_le_rounded_iff {n : ℤ} (even : Even n) :
    n * limits.quantum x ≤ limits.rounded x ↔ n * limits.quantum x ≤ x + limits.quantum x / 2 := by
  have positive := limits.quantum_pos x
  rw [rounded, mul_le_mul_iff_left₀ positive, Int.cast_le, Tie.even_le_nearest_iff even,
    le_div_iff₀ positive, sub_mul]
  constructor <;> intro close <;> linarith

/-! ### Order -/

/-- Zero is rounded to itself. -/
@[simp] theorem rounded_zero (limits : Limits) : limits.rounded 0 = 0 :=
  rounded_of_isMultiple ⟨0, by simp⟩

/-- What is not negative is not rounded below zero. -/
theorem rounded_nonneg (limits : Limits) (nonneg : 0 ≤ x) : 0 ≤ limits.rounded x :=
  le_rounded ⟨0, by simp⟩ nonneg

/-- Rounding takes no magnitude above a power of ten. -/
theorem rounded_le_zpow (proper : limits.IsProper) (nonneg : 0 ≤ x) {place : ℤ}
    (normal : limits.lowest ≤ place) (below : x ≤ 10 ^ place) : limits.rounded x ≤ 10 ^ place := by
  rcases nonneg.eq_or_lt with rfl | positive
  · rw [rounded_zero]
    exact below
  · have log : Int.log 10 x ≤ place := by
      have power : Int.log 10 ((10 : ℚ) ^ place) = place := by
        exact_mod_cast Int.log_zpow (R := ℚ) (b := 10) (by norm_num) place
      have logs := Int.log_mono_right (b := 10) positive below
      rwa [power] at logs
    have digits := proper.digits
    apply rounded_le
    · apply isMultiple_zpow
      unfold lastPlace
      omega
    · exact below

/-- Of two magnitudes, the last place of the larger one is no lower. -/
theorem lastPlace_mono (limits : Limits) (positive : 0 < x) (ordered : x ≤ y) :
    limits.lastPlace x ≤ limits.lastPlace y := by
  have logs := Int.log_mono_right (b := 10) positive ordered
  unfold lastPlace
  omega

/-- Rounding keeps the order of magnitudes: between magnitudes that are rounded at different places
stands a power of ten, which is a number for both. -/
theorem rounded_mono (proper : limits.IsProper) (nonneg : 0 ≤ x) (ordered : x ≤ y) :
    limits.rounded x ≤ limits.rounded y := by
  rcases nonneg.eq_or_lt with rfl | positive
  · rw [rounded_zero]
    exact rounded_nonneg limits ordered
  rcases (limits.lastPlace_mono positive ordered).eq_or_lt with same | higher
  · have quanta : limits.quantum y = limits.quantum x := by rw [quantum, quantum, same]
    rw [rounded, rounded, quanta]
    have quotients : x / limits.quantum x ≤ y / limits.quantum x :=
      (div_le_div_iff_of_pos_right (limits.quantum_pos x)).mpr ordered
    have nearest := Tie.nearest_mono .toEven quotients
    exact mul_le_mul_of_nonneg_right (by exact_mod_cast nearest) (limits.quantum_pos x).le
  · have digits := proper.digits
    have bigger : 0 < y := positive.trans_le ordered
    have logs : max limits.lowest (Int.log 10 x) < Int.log 10 y := by
      unfold lastPlace at higher
      omega
    calc limits.rounded x ≤ 10 ^ Int.log 10 y := by
          apply rounded_le
          · apply isMultiple_zpow
            unfold lastPlace
            omega
          · have below : x < 10 ^ Int.log 10 y :=
              (Int.lt_zpow_iff_log_lt (b := 10) (by norm_num) positive).mpr (by omega)
            exact below.le
      _ ≤ limits.rounded y := by
          apply le_rounded
          · apply isMultiple_zpow
            unfold lastPlace
            omega
          · exact Int.zpow_log_le_self (b := 10) (by norm_num) bigger

/-- A power of ten that limits reach is left as it is. -/
theorem rounded_zpow (proper : limits.IsProper) {place : ℤ} (normal : limits.lowest ≤ place) :
    limits.rounded (10 ^ place) = 10 ^ place := by
  have digits := proper.digits
  have kept := lastPlace_eq (le_refl ((10 : ℚ) ^ place))
    (zpow_lt_zpow_right₀ (by norm_num) (lt_add_one place)) normal
  exact rounded_of_isMultiple (isMultiple_zpow (by omega))

/-- A magnitude is rounded up to a power of ten from half a unit of the last place below it. -/
theorem rounded_lt_zpow_iff (proper : limits.IsProper) (nonneg : 0 ≤ x) {place : ℤ}
    (normal : limits.lowest < place) :
    limits.rounded x < 10 ^ place ↔ x < 10 ^ place - 10 ^ (place - limits.precision) / 2 := by
  have digits := proper.digits
  have unit : (0 : ℚ) < 10 ^ (place - limits.precision) := zpow_pos (by norm_num) _
  have tenth : (10 : ℚ) ^ place = 10 * 10 ^ (place - 1) := by
    rw [← zpow_one_add₀ (by norm_num), add_sub_cancel]
  rcases lt_or_ge x (10 ^ (place - 1)) with low | high
  · have below : limits.rounded x ≤ 10 ^ (place - 1) :=
      rounded_le_zpow proper nonneg (by omega) low.le
    have fine : (10 : ℚ) ^ (place - limits.precision) ≤ 10 ^ (place - 1) :=
      zpow_le_zpow_right₀ (by norm_num) (by omega)
    constructor <;> intro _ <;> linarith
  rcases lt_or_ge x (10 ^ place) with below | reached
  · -- the power of ten is an even number of units of the last place of the magnitudes just below it
    have next : place - 1 + 1 = place := by omega
    have quantum : limits.quantum x = 10 ^ (place - limits.precision) := by
      rw [quantum, lastPlace_eq high (next.symm ▸ below) (by omega)]
      congr 1
      omega
    obtain ⟨less, precision⟩ : ∃ less, limits.precision = less + 1 :=
      ⟨limits.precision - 1, by omega⟩
    have even : Even ((10 : ℤ) ^ limits.precision) := by
      rw [precision, pow_succ]
      exact (by decide : Even (10 : ℤ)).mul_left _
    have units : (((10 : ℤ) ^ limits.precision : ℤ) : ℚ) * limits.quantum x = 10 ^ place := by
      rw [quantum, Int.cast_pow, Int.cast_ofNat, ← zpow_natCast, ← zpow_add₀ (by norm_num),
        add_sub_cancel]
    have reaches : _ * limits.quantum x ≤ limits.rounded x ↔ _ := even_le_rounded_iff even
    rw [units, quantum] at reaches
    rw [← not_le, reaches, not_le]
    constructor <;> intro _ <;> linarith
  · have rounds := rounded_mono proper (zpow_pos (by norm_num) place).le reached
    rw [rounded_zpow proper normal.le] at rounds
    constructor <;> intro _ <;> linarith

/-! ### Fitting -/

/-- The last place that limits keep of a number is found from its adjusted exponent. -/
theorem lastPlace_magnitude (limits : Limits) {d : Decimal} (nonzero : d.isZero = false) :
    limits.lastPlace d.magnitude = max limits.lowest d.adjusted - (limits.precision - 1) := by
  rw [lastPlace, log_magnitude nonzero]

/-- Dropping places down to the last one that limits keep rounds the magnitude. -/
theorem magnitude_dropPlaces {d : Decimal} {places : Nat}
    (last : d.exponent + places = limits.lastPlace d.magnitude) :
    dropPlaces .toEven places d.coefficient * 10 ^ limits.lastPlace d.magnitude =
      limits.rounded d.magnitude := by
  have power : (10 : ℚ) ^ d.exponent ≠ 0 := zpow_ne_zero _ (by norm_num)
  have quotient : d.magnitude / limits.quantum d.magnitude = d.coefficient / 10 ^ (places : ℤ) := by
    rw [quantum, ← last, zpow_add₀ (by norm_num : (10 : ℚ) ≠ 0), magnitude,
      mul_comm _ ((10 : ℚ) ^ _), mul_div_mul_left _ _ power]
  rw [rounded, quotient, ← dropPlaces_eq_nearest, Int.cast_natCast, quantum]

/-- What fitting a number to limits gives. -/
structure Fits (limits : Limits) (d fitted : Decimal) : Prop where
  sign : fitted.negative = d.negative
  magnitude : fitted.magnitude = limits.rounded d.magnitude
  tiny_le : limits.tiny ≤ fitted.exponent

/-- A number that ends at a place that limits keep fits as it is. -/
theorem Fits.self {d : Decimal} (kept : limits.lastPlace d.magnitude ≤ d.exponent)
    (tiny : limits.tiny ≤ d.exponent) : limits.Fits d d :=
  ⟨rfl, (rounded_of_isMultiple (isMultiple_natCast_mul_zpow d.coefficient kept)).symm, tiny⟩

/-- A number passes the check of its exponent if its magnitude is below the first power of ten
beyond the limits. -/
theorem check_eq (limits : Limits) {d : Decimal} (nonzero : d.isZero = false) :
    limits.check d =
      if d.magnitude < 10 ^ (limits.highest + 1) then .ok d else .error .overflow := by
  have range : d.magnitude < 10 ^ (limits.highest + 1) ↔ ¬ limits.highest < d.adjusted := by
    rw [magnitude_lt_zpow_iff nonzero]
    omega
  simp only [check, range, ite_not]

section Fit

variable {d : Decimal}

/-- A zero fits once its exponent is brought within the limits. -/
theorem fits_zero (zero : d.isZero = true) :
    limits.Fits d { d with exponent := max limits.tiny (min d.exponent limits.highest) } := by
  refine ⟨rfl, ?_, le_max_left _ _⟩
  rw [magnitude_eq_zero_iff.mpr zero, rounded_zero, magnitude_eq_zero_iff]
  exact zero

/-- A number below the normal ones fits once it is cut at the lowest place of all. -/
theorem fits_subnormal (nonzero : d.isZero = false) (low : d.adjusted < limits.lowest)
    (tiny : d.exponent < limits.tiny) :
    limits.Fits d { d with
      coefficient := dropPlaces .toEven (limits.tiny - d.exponent).toNat d.coefficient
      exponent := limits.tiny } := by
  have place : limits.lastPlace d.magnitude = limits.tiny := by
    rw [lastPlace_magnitude limits nonzero, max_eq_left low.le, Limits.tiny]
  have last : d.exponent + (limits.tiny - d.exponent).toNat =
      limits.lastPlace d.magnitude := by omega
  refine ⟨rfl, ?_, le_rfl⟩
  rw [← magnitude_dropPlaces last, place]
  rfl

/-- A number below the normal ones does not overflow. -/
theorem rounded_lt_of_subnormal (proper : limits.IsProper) (nonzero : d.isZero = false)
    (low : d.adjusted < limits.lowest) :
    limits.rounded d.magnitude < 10 ^ (limits.highest + 1) := by
  have bounded : limits.rounded d.magnitude ≤ 10 ^ limits.lowest := by
    apply rounded_le
    · apply isMultiple_zpow
      have digits := proper.digits
      rw [lastPlace_magnitude limits nonzero]
      omega
    · exact ((magnitude_lt_zpow_iff nonzero).mpr low).le
  exact bounded.trans_lt (zpow_lt_zpow_right₀ (by norm_num) (Int.lt_add_one_of_le proper.range))

/-- A number with few enough digits fits as it is. -/
theorem fits_short (nonzero : d.isZero = false)
    (short : digitCount d.coefficient ≤ limits.precision)
    (normal : ¬ (d.adjusted < limits.lowest ∧ d.exponent < limits.tiny)) : limits.Fits d d := by
  have place := lastPlace_magnitude limits nonzero
  unfold adjusted at place normal
  unfold Limits.tiny at normal
  apply Fits.self
  · omega
  · unfold Limits.tiny
    omega

/-- The exponent of the first digit is kept or raised by one. -/
theorem rounded_mem_Icc (proper : limits.IsProper) (nonzero : d.isZero = false)
    (normal : limits.lowest ≤ d.adjusted) :
    limits.rounded d.magnitude ∈ Set.Icc (10 ^ d.adjusted) (10 ^ (d.adjusted + 1)) := by
  have digits := proper.digits
  have place := lastPlace_magnitude limits nonzero
  constructor
  · apply le_rounded
    · exact isMultiple_zpow (by omega)
    · rw [← log_magnitude nonzero]
      exact Int.zpow_log_le_self (b := 10) (by norm_num) (magnitude_pos nonzero)
  · apply rounded_le
    · exact isMultiple_zpow (by omega)
    · exact ((magnitude_lt_zpow_iff nonzero).mpr (lt_add_one _)).le

/-- A number with too many digits fits once it is shortened. -/
theorem fits_shorten (proper : limits.IsProper) (nonzero : d.isZero = false)
    (long : ¬ digitCount d.coefficient ≤ limits.precision) (normal : limits.lowest ≤ d.adjusted) :
    limits.Fits d (limits.shorten d) := by
  have digits := proper.digits
  have place := lastPlace_magnitude limits nonzero
  have count : d.adjusted = d.exponent + digitCount d.coefficient - 1 := rfl
  have last : d.exponent + (digitCount d.coefficient - limits.precision : Nat) =
      limits.lastPlace d.magnitude := by omega
  have kept : limits.tiny ≤ limits.lastPlace d.magnitude := by
    unfold Limits.tiny
    omega
  have rounds := magnitude_dropPlaces last
  simp only [shorten]
  generalize dropPlaces .toEven (digitCount d.coefficient - limits.precision) d.coefficient =
    coefficient at rounds ⊢
  split_ifs with room
  · refine ⟨rfl, ?_, last ▸ kept⟩
    rw [← rounds, ← last]
    rfl
  · -- rounded up to a power of ten, which has one digit more than there is room for
    have atLeast : tenTo limits.precision ≤ coefficient := by
      by_contra below
      exact room ((digitCount_le_iff digits).mpr (Nat.lt_of_not_le below))
    have atMost : coefficient ≤ tenTo limits.precision := by
      have bounded := (rounded_mem_Icc proper nonzero normal).2
      have power : d.adjusted + 1 = limits.precision + limits.lastPlace d.magnitude := by omega
      rw [← rounds, power, zpow_add₀ (by norm_num : (10 : ℚ) ≠ 0), ← cast_tenTo,
        mul_le_mul_iff_left₀ (zpow_pos (by norm_num) _)] at bounded
      exact_mod_cast bounded
    obtain ⟨less, precision⟩ : ∃ less, limits.precision = less + 1 :=
      ⟨limits.precision - 1, by omega⟩
    have power : coefficient = 10 * tenTo less := by
      rw [← tenTo_succ, ← precision]
      exact le_antisymm atMost atLeast
    refine ⟨rfl, ?_, by dsimp only; omega⟩
    rw [← rounds, ← last, power, Nat.mul_div_cancel_left _ (by norm_num)]
    simp only [magnitude, zpow_add₀ (by norm_num : (10 : ℚ) ≠ 0)]
    push_cast
    ring

/-- Shortening a normal number does not make it zero. -/
theorem isZero_shorten (proper : limits.IsProper) (nonzero : d.isZero = false)
    (long : ¬ digitCount d.coefficient ≤ limits.precision) (normal : limits.lowest ≤ d.adjusted) :
    (limits.shorten d).isZero = false := by
  have positive : (0 : ℚ) < 10 ^ d.adjusted := zpow_pos (by norm_num) _
  rw [Bool.eq_false_iff, Ne, ← magnitude_eq_zero_iff,
    (fits_shorten proper nonzero long normal).magnitude]
  exact (positive.trans_le (rounded_mem_Icc proper nonzero normal).1).ne'

/-- A number is within range when it is so rounded: rounding never lowers the first digit. -/
theorem lt_of_rounded_lt (proper : limits.IsProper) (nonzero : d.isZero = false)
    (normal : limits.lowest ≤ d.adjusted) {places : ℤ}
    (below : limits.rounded d.magnitude < 10 ^ places) :
    d.magnitude < 10 ^ places := by
  rw [magnitude_lt_zpow_iff nonzero]
  have power := (rounded_mem_Icc proper nonzero normal).1.trans_lt below
  exact (zpow_lt_zpow_iff_right₀ (by norm_num)).mp power

/-- A normal number is fitted by shortening it if it is too long, as long as it is below the first
power of ten beyond the limits. -/
theorem fit_of_normal (nonzero : d.isZero = false)
    (normal : ¬ (d.adjusted < limits.lowest ∧ d.exponent < limits.tiny)) :
    limits.fit d = if d.magnitude < 10 ^ (limits.highest + 1) then
        if digitCount d.coefficient ≤ limits.precision then .ok d
        else limits.check (limits.shorten d)
      else .error .overflow := by
  rw [fit, nonzero, if_neg Bool.false_ne_true, if_neg normal, check_eq limits nonzero]
  split_ifs with bounded short
  · exact if_pos short
  · exact if_neg short
  · rfl

/-- Fitting gives a number of the rounded magnitude, and fails where that is beyond the limits. -/
theorem fit_spec (proper : limits.IsProper) (d : Decimal) :
    ∃ fitted, limits.Fits d fitted ∧ limits.fit d =
      if limits.rounded d.magnitude < 10 ^ (limits.highest + 1) then .ok fitted
      else .error .overflow := by
  cases zero : d.isZero with
  | true =>
      have bounded : limits.rounded d.magnitude < 10 ^ (limits.highest + 1) := by
        rw [magnitude_eq_zero_iff.mpr zero, rounded_zero]
        exact zpow_pos (by norm_num) _
      exact ⟨_, fits_zero zero, by rw [fit, if_pos zero, if_pos bounded]⟩
  | false =>
      by_cases subnormal : d.adjusted < limits.lowest ∧ d.exponent < limits.tiny
      · have bounded := rounded_lt_of_subnormal proper zero subnormal.1
        refine ⟨_, fits_subnormal zero subnormal.1 subnormal.2, ?_⟩
        rw [fit, zero, if_neg Bool.false_ne_true, if_pos subnormal, if_pos bounded]
      rw [fit_of_normal zero subnormal]
      by_cases short : digitCount d.coefficient ≤ limits.precision
      · have fits := fits_short zero short subnormal
        refine ⟨d, fits, ?_⟩
        rw [if_pos short, ← fits.magnitude]
      · have normal : limits.lowest ≤ d.adjusted := by
          unfold adjusted at subnormal ⊢
          unfold Limits.tiny at subnormal
          omega
        have fits := fits_shorten proper zero short normal
        refine ⟨_, fits, ?_⟩
        rw [if_neg short, check_eq limits (isZero_shorten proper zero short normal), fits.magnitude]
        by_cases bounded : limits.rounded d.magnitude < 10 ^ (limits.highest + 1)
        · rw [if_pos (lt_of_rounded_lt proper zero normal bounded)]
        · rw [if_neg bounded, ite_self]

/-- A number that does not overflow when it is rounded is fitted to the limits. -/
theorem fit_eq_ok (proper : limits.IsProper) (d : Decimal)
    (bounded : limits.rounded d.magnitude < 10 ^ (limits.highest + 1)) :
    ∃ fitted, limits.fit d = .ok fitted ∧ limits.Fits d fitted := by
  obtain ⟨fitted, fits, fit⟩ := fit_spec proper d
  rw [if_pos bounded] at fit
  exact ⟨fitted, fit, fits⟩

end Fit

/-! ### Whole numbers -/

/-- The nearest integer is given wherever it has no more digits than allowed. -/
theorem toInteger_eq (limits : Limits) (d : Decimal) :
    limits.toInteger d =
      if d.magnitude < 10 ^ (limits.precision : ℤ) then
        .ok (if d.negative then -round d.magnitude else round d.magnitude)
      else .error .invalidOperation := by
  cases zero : d.isZero with
  | true =>
      have positive : (0 : ℚ) < 10 ^ (limits.precision : ℤ) := zpow_pos (by norm_num) _
      rw [toInteger, if_pos zero, magnitude_eq_zero_iff.mpr zero, if_pos positive, round_zero,
        neg_zero, ite_self]
  | false =>
      have range : limits.precision < digitCount d.coefficient + d.exponent ↔
          ¬ d.magnitude < 10 ^ (limits.precision : ℤ) := by
        rw [magnitude_lt_zpow_iff zero, adjusted]
        omega
      have nearest : (if 0 ≤ d.exponent then ((d.coefficient * tenTo d.exponent.toNat : Nat) : ℤ)
          else dropPlaces .upward d.exponent.natAbs d.coefficient) = round d.magnitude := by
        split_ifs with whole
        · rw [magnitude_of_exponent_nonneg whole, round_natCast]
        · rw [dropPlaces_eq_nearest, Tie.nearest_upward, magnitude_of_exponent_neg whole,
            cast_tenTo]
      rw [toInteger, zero, if_neg Bool.false_ne_true]
      simp only [range, ite_not, ← nearest]
      push_cast
      rfl

end Playbook.Decimal.Limits
