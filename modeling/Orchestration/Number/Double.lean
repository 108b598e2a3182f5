namespace Orchestration

/-! Binary floating-point formats: a value is `significand * 2 ^ exponent` with
a significand of at most `digits` bits, and of exactly that many unless the
exponent is the least one. -/

-- Powers of whole numbers are the plain ones, whatever else is imported.
attribute [instance (high)] instPowNat

structure Precision where
  digits : Nat
  least : Int
  greatest : Int

namespace Precision

def double : Precision := ⟨53, -1074, 971⟩

def single : Precision := ⟨24, -149, 104⟩

def Canonical (precision : Precision) (significand : Nat) (exponent : Int) :
    Prop :=
  significand < 2 ^ precision.digits ∧
    precision.least ≤ exponent ∧ exponent ≤ precision.greatest ∧
    (2 ^ (precision.digits - 1) ≤ significand ∨ exponent = precision.least)

instance (precision : Precision) (significand : Nat) (exponent : Int) :
    Decidable (precision.Canonical significand exponent) := by
  unfold Canonical
  infer_instance

end Precision

/-- A finite double; zero has a sign. -/
structure FiniteDouble where
  negative : Bool
  significand : Nat
  exponent : Int
  canonical : Precision.double.Canonical significand exponent
deriving DecidableEq

namespace FiniteDouble

def zero (negative : Bool) : FiniteDouble :=
  ⟨negative, 0, -1074, by decide⟩

instance : Inhabited FiniteDouble := ⟨zero false⟩

def isZero (x : FiniteDouble) : Bool := x.significand == 0

def equal (x y : FiniteDouble) : Bool :=
  (x.isZero && y.isZero) || x == y

def truncate (x : FiniteDouble) : Int :=
  let magnitude :=
    x.significand * 2 ^ x.exponent.toNat / 2 ^ (-x.exponent).toNat
  if x.negative then -magnitude else magnitude

end FiniteDouble

inductive Double where
  | finite (value : FiniteDouble)
  | infinite (negative : Bool)
  | nan
deriving DecidableEq

namespace Double

def zero : Double := .finite (.zero false)

instance : Inhabited Double := ⟨zero⟩

def isFinite : Double → Bool
  | .finite _ => true
  | _ => false

def isZero : Double → Bool
  | .finite x => x.isZero
  | _ => false

/-- Numerical equality: no `nan` equals itself. -/
def equal : Double → Double → Bool
  | .finite x, .finite y => x.equal y
  | .infinite x, .infinite y => x == y
  | _, _ => false

def finite? : Double → Option FiniteDouble
  | .finite x => some x
  | _ => none

end Double

end Orchestration
