/-! # Decimal numbers

A decimal number is kept as it was written: a sign, a coefficient and a power of ten, so that 1.50
and 1.5 are different numbers of the same value. Exponents may be large; operations avoid writing
out a power of ten where the result does not need it.
-/

namespace Playbook

/-- The number `coefficient · 10 ^ exponent`, or its opposite. -/
structure Decimal where
  negative : Bool := false
  coefficient : Nat
  exponent : Int := 0
deriving DecidableEq, Repr

namespace Decimal

/-- The number of decimal digits of a natural number; zero has one digit. -/
def digitCount (n : Nat) : Nat := (Nat.toDigits 10 n).length

/-- The power of ten with as many zeros as there are places. -/
def tenTo (places : Nat) : Nat := Nat.pow 10 places

/-- One more place is one more factor of ten. -/
theorem tenTo_succ (places : Nat) : tenTo (places + 1) = 10 * tenTo places :=
  Nat.mul_comm (tenTo places) 10

/-- A number below a power of ten has at most as many digits as the power has zeros. -/
theorem digitCount_le_iff {n places : Nat} (positive : 0 < places) :
    digitCount n ≤ places ↔ n < tenTo places :=
  Nat.length_toDigits_le_iff (by decide) positive

/-- Every number has a digit. -/
theorem digitCount_pos (n : Nat) : 0 < digitCount n := Nat.length_toDigits_pos

/-- How a quotient half way between two integers is rounded. -/
inductive Tie where
  | toEven
  | upward
deriving DecidableEq, Repr

/-- The integer nearest to a quotient. -/
def roundDiv (tie : Tie) (n divisor : Nat) : Nat :=
  let quotient := n / divisor
  let twice := 2 * (n % divisor)
  let up := match tie with
    | .toEven => divisor < twice || (twice == divisor && quotient % 2 == 1)
    | .upward => divisor ≤ twice
  if up then quotient + 1 else quotient

/-- The integer nearest to `n / 10 ^ places`. A number with fewer digits than places is below one
half, whatever the tie. -/
def dropPlaces (tie : Tie) (places n : Nat) : Nat :=
  if digitCount n < places then 0 else roundDiv tie n (tenTo places)

/-- Leaving out the power of ten for short numbers does not change the result. -/
theorem dropPlaces_eq (tie : Tie) (places n : Nat) :
    dropPlaces tie places n = roundDiv tie n (tenTo places) := by
  unfold dropPlaces
  split
  case isFalse => rfl
  case isTrue short =>
    obtain ⟨less, rfl⟩ : ∃ less, places = less + 1 := ⟨places - 1, by omega⟩
    have below : n < tenTo less :=
      (digitCount_le_iff (by have := digitCount_pos n; omega)).mp (by omega)
    have power := tenTo_succ less
    have small : n < tenTo (less + 1) := by omega
    simp only [roundDiv, Nat.div_eq_of_lt small, Nat.mod_eq_of_lt small]
    cases tie <;> simp <;> omega

/-- Whether the value is zero. -/
def isZero (d : Decimal) : Bool := d.coefficient == 0

/-- The exponent of the first digit. -/
def adjusted (d : Decimal) : Int := d.exponent + digitCount d.coefficient - 1

/-- Whether the value is below zero. -/
def isBelowZero (d : Decimal) : Bool := d.negative && !d.isZero

/-- Whether the value is a whole number. -/
def isWhole (d : Decimal) : Bool :=
  d.isZero || 0 ≤ d.exponent ||
    (d.exponent.natAbs < digitCount d.coefficient &&
      d.coefficient % tenTo d.exponent.natAbs == 0)

/-- The magnitude without its fraction. -/
def truncate (d : Decimal) : Nat :=
  if d.isZero then 0
  else if 0 ≤ d.exponent then d.coefficient * tenTo d.exponent.toNat
  else if digitCount d.coefficient ≤ d.exponent.natAbs then 0
  else d.coefficient / tenTo d.exponent.natAbs

/-- Moves trailing zeros of a coefficient into the exponent. -/
def stripZeros (coefficient : Nat) (exponent : Int) : Nat × Int :=
  if 0 < coefficient ∧ coefficient % 10 = 0 then stripZeros (coefficient / 10) (exponent + 1)
  else (coefficient, exponent)
termination_by coefficient

/-- The number of the same value with no trailing zeros; zero gets the exponent zero. -/
def reduce (d : Decimal) : Decimal :=
  if d.isZero then { d with exponent := 0 }
  else
    let (coefficient, exponent) := stripZeros d.coefficient d.exponent
    { d with coefficient, exponent }

/-- The number in positional notation. -/
def positional (d : Decimal) : String :=
  let digits := Nat.toDigits 10 d.coefficient
  let magnitude :=
    if 0 ≤ d.exponent then digits ++ List.replicate d.exponent.toNat '0'
    else
      let places := d.exponent.natAbs
      let filled := List.replicate (places + 1 - digits.length) '0' ++ digits
      let whole := filled.length - places
      filled.take whole ++ '.' :: filled.drop whole
  String.ofList (if d.negative then '-' :: magnitude else magnitude)

end Decimal
end Playbook
