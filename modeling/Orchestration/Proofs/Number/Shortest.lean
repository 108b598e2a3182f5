import Orchestration.Proofs.Number.Nearest

namespace Orchestration

/-! The decimal that is written for a double is among the reals that are rounded
to it. -/

namespace Decimal

def value (decimal : Decimal) : ℚ := decimal.digits * 10 ^ decimal.scale

theorem zpow_mul_eq {base : Nat} (positive : 0 < base) (exponent : Int) :
    (base ^ exponent : ℚ) * ((base ^ (-exponent).toNat : Nat) : ℚ) =
      ((base ^ exponent.toNat : Nat) : ℚ) := by
  rw [zpow_eq_div, div_mul_cancel₀]
  positivity

theorem compareBinary_compares (left : Nat) (leftScale : Int) (right : Nat)
    (rightScale : Int) :
    (compareBinary left leftScale right rightScale).Compares
      (left * 10 ^ leftScale : ℚ) (right * 2 ^ rightScale) := by
  let clear : ℚ :=
    ((10 ^ (-leftScale).toNat * 2 ^ (-rightScale).toNat : Nat) : ℚ)
  have positive : 0 < clear := by positivity
  have ten := zpow_mul_eq (show 0 < 10 by decide) leftScale
  have two := zpow_mul_eq (show 0 < 2 by decide) rightScale
  rw [Nat.cast_ofNat] at ten two
  have first : (left * 10 ^ leftScale : ℚ) * clear =
      ((left * 10 ^ leftScale.toNat * 2 ^ (-rightScale).toNat : Nat) : ℚ) := by
    simp only [clear]
    rw [Nat.cast_mul, Nat.cast_mul, Nat.cast_mul, ← ten]
    ring
  have second : (right * 2 ^ rightScale : ℚ) * clear =
      ((right * 2 ^ rightScale.toNat * 10 ^ (-leftScale).toNat : Nat) : ℚ) := by
    simp only [clear]
    rw [Nat.cast_mul, Nat.cast_mul, Nat.cast_mul, ← two]
    ring
  have same : compareBinary left leftScale right rightScale =
      cmp (left * 10 ^ leftScale : ℚ) (right * 2 ^ rightScale) := by
    rw [← cmp_mul_pos_right positive, first, second,
      Nat.strictMono_cast.cmp_map_eq, cmp_eq_compare, compareBinary]
  exact same ▸ cmp_compares _ _

theorem value_strip (fuel : Nat) (decimal : Decimal) :
    (strip fuel decimal).value = decimal.value := by
  induction fuel generalizing decimal with
  | zero => rfl
  | succ fuel induction =>
      rw [strip]
      split
      next last =>
        rw [induction, value, value, zpow_add_one₀ (by norm_num)]
        have whole : decimal.digits = decimal.digits / 10 * 10 := by omega
        have exact : (decimal.digits : ℚ) =
            ((decimal.digits / 10 : Nat) : ℚ) * 10 := by exact_mod_cast whole
        rw [exact]
        ring
      next => rfl

end Decimal

namespace FiniteDouble

open Decimal

variable {x : FiniteDouble} {decimal : Decimal}

theorem quarters (count : Nat) (x : FiniteDouble) :
    (count * 2 ^ (x.exponent - 2) : ℚ) = count / 4 * 2 ^ x.exponent := by
  rw [zpow_sub₀ two_ne_zero]
  norm_num
  ring

theorem lower_eq (positive : 0 < x.significand) :
    ((4 * x.significand - (if x.narrowBelow then 1 else 2) : Nat) : ℚ) / 4 =
      x.significand - x.reach := by
  rw [reach]
  split
  · rw [Nat.cast_sub (by omega), Nat.cast_mul]
    norm_num
    ring
  · rw [Nat.cast_sub (by omega), Nat.cast_mul]
    norm_num
    ring

/-- The test by whole numbers tells which decimals a double covers. -/
theorem covers_of_readsBack (positive : 0 < x.significand)
    (reads : x.readsBack decimal = true) : x.Covers decimal.value := by
  have step := two_zpow_pos x.exponent
  have lower := compareBinary_compares decimal.digits decimal.scale
    (4 * x.significand - (if x.narrowBelow then 1 else 2)) (x.exponent - 2)
  have upper := compareBinary_compares decimal.digits decimal.scale
    (4 * x.significand + 2) (x.exponent - 2)
  rw [quarters, lower_eq positive] at lower
  rw [quarters] at upper
  rw [readsBack] at reads
  simp only [Bool.and_eq_true, Bool.or_eq_true, beq_iff_eq, lower.eq_gt,
    lower.eq_eq, upper.eq_lt, upper.eq_eq] at reads
  constructor
  · rw [lt_div_iff₀ step, eq_div_iff step.ne']
    exact reads.1.imp id (And.imp_right Eq.symm)
  · have bound : ((4 * x.significand + 2 : Nat) : ℚ) / 4 =
        x.significand + 1 / 2 := by
      push_cast
      ring
    rw [bound] at reads
    rw [div_lt_iff₀ step, div_eq_iff step.ne']
    exact reads.2

theorem Covers.positive {real : ℚ} (covers : x.Covers real)
    (nonzero : 0 < x.significand) : 0 < real := by
  have one : (1 : ℚ) ≤ x.significand := by exact_mod_cast nonzero
  have short : x.reach ≤ 1 / 2 := by
    rw [reach]
    split <;> norm_num
  have some : 0 < real / 2 ^ x.exponent :=
    lt_of_lt_of_le (by linarith) covers.atLeast
  exact (div_pos_iff_of_pos_right (two_zpow_pos _)).mp some

theorem readsBack_of_onGrid? {tie : Tie} {scale : Int}
    (found : x.onGrid? tie scale = some decimal) :
    x.readsBack decimal = true := by
  unfold onGrid? at found
  grind

/-- The exact value, which stands behind all shorter decimals. -/
theorem covers_exact (x : FiniteDouble) :
    x.Covers (Decimal.value
      ⟨x.significand * 2 ^ x.exponent.toNat * 5 ^ (-x.exponent).toNat,
        -((-x.exponent).toNat : Int)⟩) := by
  have exact : (Decimal.value
      ⟨x.significand * 2 ^ x.exponent.toNat * 5 ^ (-x.exponent).toNat,
        -((-x.exponent).toNat : Int)⟩) = x.significand * 2 ^ x.exponent := by
    have binary := zpow_eq_div 2 x.exponent
    rw [Nat.cast_ofNat] at binary
    rw [value, binary, zpow_neg, zpow_natCast]
    push_cast
    rw [← div_eq_mul_inv, show (10 : ℚ) = 2 * 5 by norm_num, mul_pow]
    field_simp
  have same : (x.significand * 2 ^ x.exponent / 2 ^ x.exponent : ℚ) =
      x.significand := mul_div_cancel_right₀ _ (two_zpow_pos _).ne'
  rw [exact]
  constructor
  · left
    rw [same, reach]
    split <;> linarith
  · left
    rw [same]
    linarith

/-- What is written for a double is rounded to it. -/
theorem covers_shortest (positive : 0 < x.significand) (tie : Tie) :
    x.Covers (x.shortest tie).value := by
  rw [shortest, value_strip]
  generalize found : List.findSome? _ _ = short
  cases short with
  | none => exact x.covers_exact
  | some decimal =>
      obtain ⟨_, _, found⟩ := List.exists_of_findSome?_eq_some found
      exact covers_of_readsBack positive (readsBack_of_onGrid? found)

end FiniteDouble

end Orchestration
