import Playbook.Decimal.Basic

/-! # Arithmetic of limited precision

Operations on decimal numbers follow General Decimal Arithmetic: the exact result is fitted to a
precision and a range of exponents. A result that is too large, or an operation without a result,
raises a signal; a result that is too small becomes a number with fewer digits, at last zero.
-/

namespace Playbook.Decimal

/-- What stops an operation. -/
inductive Signal where
  | overflow
  | invalidOperation
deriving DecidableEq, Repr

/-- The name of a signal. -/
def Signal.name : Signal → String
  | overflow => "Overflow"
  | invalidOperation => "InvalidOperation"

/-- The number of digits of a result and the range of the exponent of its first digit. -/
structure Limits where
  precision : Nat
  highest : Int := 999999
  lowest : Int := -999999

namespace Limits

/-- The lowest exponent of a coefficient. -/
def tiny (limits : Limits) : Int := limits.lowest - (limits.precision - 1)

/-- Refuses a number whose first digit stands too high. -/
def check (limits : Limits) (d : Decimal) : Except Signal Decimal :=
  if limits.highest < d.adjusted then .error .overflow else .ok d

/-- Rounds a coefficient to the precision, a half to the even neighbour. -/
def shorten (limits : Limits) (d : Decimal) : Decimal :=
  let places := digitCount d.coefficient - limits.precision
  let coefficient := dropPlaces .toEven places d.coefficient
  if digitCount coefficient ≤ limits.precision then
    { d with coefficient, exponent := d.exponent + places }
  else { d with coefficient := coefficient / 10, exponent := d.exponent + places + 1 }

/-- The number within the limits nearest to a number. -/
def fit (limits : Limits) (d : Decimal) : Except Signal Decimal :=
  if d.isZero then .ok { d with exponent := max limits.tiny (min d.exponent limits.highest) }
  else if d.adjusted < limits.lowest ∧ d.exponent < limits.tiny then
    .ok { d with
      coefficient := dropPlaces .toEven (limits.tiny - d.exponent).toNat d.coefficient
      exponent := limits.tiny }
  else do
    let d ← limits.check d
    if digitCount d.coefficient ≤ limits.precision then .ok d else limits.check (limits.shorten d)

/-- The number times a power of ten. A power beyond twice the sum of range and precision is refused.
-/
def scale (limits : Limits) (d : Decimal) (places : Int) : Except Signal Decimal :=
  if 2 * (limits.highest + limits.precision) < places.natAbs then .error .invalidOperation
  else limits.fit { d with exponent := d.exponent + places }

/-- The number with no trailing zeros, fitted to the limits first. -/
def normalize (limits : Limits) (d : Decimal) : Except Signal Decimal :=
  (limits.fit d).map reduce

/-- The nearest integer, a half away from zero; refused where it needs more digits than allowed. -/
def toInteger (limits : Limits) (d : Decimal) : Except Signal Int :=
  if d.isZero then .ok 0
  else if limits.precision < digitCount d.coefficient + d.exponent then .error .invalidOperation
  else
    let magnitude : Int :=
      if 0 ≤ d.exponent then d.coefficient * tenTo d.exponent.toNat
      else dropPlaces .upward d.exponent.natAbs d.coefficient
    .ok (if d.negative then -magnitude else magnitude)

end Limits

/-- The limits of numbers that are shown. -/
def shownLimits : Limits where
  precision := 28

/-- The limits of numbers that are encoded: room for 256 bits and 18 places after the point. -/
def encodedLimits : Limits where
  precision := 120

/-- The limits within which a number is compared with the largest word. -/
def wordLimits : Limits where
  precision := 98

end Playbook.Decimal
