import Orchestration.Number.Double

namespace Orchestration

/-- The nearest integer to a quotient; a half goes to the even neighbour. -/
def roundHalfEven (numerator denominator : Nat) : Nat :=
  let quotient := numerator / denominator
  let remainder := numerator % denominator
  if 2 * remainder < denominator then quotient
  else if denominator < 2 * remainder then quotient + 1
  else quotient + quotient % 2

/-- The greatest `e` with `2 ^ e ≤ numerator / denominator`, for positive
arguments. -/
def floorLog2 (numerator denominator : Nat) : Int :=
  let guess : Int := numerator.log2 - denominator.log2
  if denominator * 2 ^ guess.toNat ≤ numerator * 2 ^ (-guess).toNat then guess
  else guess - 1

namespace Precision

/-- The representable value nearest to a positive quotient, as significand and
exponent, which may be beyond the greatest exponent. -/
def nearest (precision : Precision) (numerator denominator : Nat) :
    Nat × Int :=
  let exponent :=
    max precision.least
      (floorLog2 numerator denominator - (precision.digits - 1))
  let significand :=
    roundHalfEven (numerator * 2 ^ (-exponent).toNat)
      (denominator * 2 ^ exponent.toNat)
  if significand = 2 ^ precision.digits then
    (2 ^ (precision.digits - 1), exponent + 1)
  else (significand, exponent)

end Precision

namespace Double

def ofParts (negative : Bool) (significand : Nat) (exponent : Int) : Double :=
  if h : Precision.double.Canonical significand exponent then
    .finite ⟨negative, significand, exponent, h⟩
  else .infinite negative

def ofRatio (negative : Bool) (numerator denominator : Nat) : Double :=
  if numerator = 0 then .finite (.zero negative)
  else
    let parts := Precision.double.nearest numerator denominator
    ofParts negative parts.1 parts.2

/-- The double nearest to an integer. -/
def ofInt (value : Int) : Double := ofRatio (value < 0) value.natAbs 1

/-- Rounds to single precision first; the result is exact as a double. -/
def ofRatioSingle (negative : Bool) (numerator denominator : Nat) : Double :=
  if numerator = 0 then .finite (.zero negative)
  else
    let parts := Precision.single.nearest numerator denominator
    if Precision.single.Canonical parts.1 parts.2 then
      ofRatio negative (parts.1 * 2 ^ parts.2.toNat) (2 ^ (-parts.2).toNat)
    else .infinite negative

end Double

end Orchestration
