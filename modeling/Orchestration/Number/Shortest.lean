import Orchestration.Number.Double

namespace Orchestration

/-! The decimal with the fewest digits among those that round to a given
double, and of these the nearest one. -/

structure Decimal where
  digits : Nat
  scale : Int
deriving DecidableEq

namespace Decimal

def compareBinary (left : Nat) (leftScale : Int) (right : Nat)
    (rightScale : Int) : Ordering :=
  compare (left * 10 ^ leftScale.toNat * 2 ^ (-rightScale).toNat)
    (right * 2 ^ rightScale.toNat * 10 ^ (-leftScale).toNat)

/-- Moves trailing zeros of the digits into the scale, at most `fuel` many. -/
def strip : Nat → Decimal → Decimal
  | 0, decimal => decimal
  | fuel + 1, decimal =>
      if decimal.digits % 10 = 0 then
        strip fuel ⟨decimal.digits / 10, decimal.scale + 1⟩
      else decimal

end Decimal

namespace FiniteDouble

open Decimal

/-- The gap to the neighbour below is half the gap to the one above. -/
def narrowBelow (x : FiniteDouble) : Bool :=
  x.significand == 2 ^ (52 : Nat) && -1074 < x.exponent

/-- The decimal lies among the reals that round to the magnitude of `x`: the
bounds are halfway to the neighbours and belong to an even significand. -/
def readsBack (x : FiniteDouble) (decimal : Decimal) : Bool :=
  let lower := 4 * x.significand - (if x.narrowBelow then 1 else 2)
  let upper := 4 * x.significand + 2
  let closed := x.significand % 2 == 0
  let below :=
    compareBinary decimal.digits decimal.scale lower (x.exponent - 2)
  let above :=
    compareBinary decimal.digits decimal.scale upper (x.exponent - 2)
  (below == .gt || (closed && below == .eq)) &&
    (above == .lt || (closed && above == .eq))

/-- The least `k` with `x < 10 ^ k`, found next to an estimate from the binary
logarithm. -/
def decimalScale (x : FiniteDouble) : Int :=
  let logarithm : Int := x.significand.log2 + x.exponent
  let estimate := logarithm * 30103 / 100000
  let candidates := [estimate, estimate + 1, estimate + 2]
  (candidates.find? fun k =>
    compareBinary 1 k x.significand x.exponent == .gt).getD (estimate + 3)

inductive Tie where
  | toEven
  | up
deriving DecidableEq

/-- The neighbours of the magnitude of `x` on the grid of step `10 ^ scale`. -/
def gridFloor (x : FiniteDouble) (scale : Int) : Nat :=
  x.significand * 2 ^ x.exponent.toNat * 10 ^ (-scale).toNat /
    (2 ^ (-x.exponent).toNat * 10 ^ scale.toNat)

/-- The nearer of the two grid neighbours that read back, if any does. -/
def onGrid? (x : FiniteDouble) (tie : Tie) (scale : Int) : Option Decimal :=
  let floor := x.gridFloor scale
  let low : Decimal := ⟨floor, scale⟩
  let high : Decimal := ⟨floor + 1, scale⟩
  if x.readsBack low then
    if x.readsBack high then
      match compareBinary (2 * floor + 1) scale (2 * x.significand) x.exponent with
      | .gt => some low
      | .lt => some high
      | .eq =>
          match tie with
          | .up => some high
          | .toEven => some (if floor % 2 = 0 then low else high)
    else some low
  else if x.readsBack high then some high
  else none

/-- The shortest decimal of a magnitude other than zero. Seventeen digits
always suffice; the exact value stands behind them. -/
def shortest (x : FiniteDouble) (tie : Tie) : Decimal :=
  let scale := x.decimalScale
  let found :=
    (List.range 17).findSome? fun (n : Nat) => x.onGrid? tie (scale - (n + 1))
  let exact : Decimal :=
    ⟨x.significand * 2 ^ x.exponent.toNat * 5 ^ (-x.exponent).toNat,
      -((-x.exponent).toNat : Int)⟩
  strip 400 (found.getD exact)

end FiniteDouble

end Orchestration
