import Mathlib.Tactic.Linarith
import Mathlib.Tactic.Ring
import Orchestration.Number.Numeral

namespace Orchestration

/-! Rounding to doubles. Whole numbers beyond the precision stay whole, and move
by half a step at most. -/

theorem roundHalfEven_near (numerator : Nat) {denominator : Nat}
    (positive : 0 < denominator) :
    2 * numerator ≤
        2 * (roundHalfEven numerator denominator * denominator) + denominator ∧
      2 * (roundHalfEven numerator denominator * denominator) ≤
        2 * numerator + denominator := by
  have parts := Nat.div_add_mod' numerator denominator
  have below := Nat.mod_lt numerator positive
  rw [roundHalfEven]
  generalize numerator / denominator = quotient at parts ⊢
  generalize numerator % denominator = remainder at parts below ⊢
  have next : (quotient + 1) * denominator =
      quotient * denominator + denominator := by ring
  split
  · omega
  · split
    · omega
    · rcases Nat.mod_two_eq_zero_or_one quotient with even | odd
      · rw [even, Nat.add_zero]
        omega
      · rw [odd]
        omega

theorem floorLog2_one {value : Nat} (positive : 0 < value) :
    floorLog2 value 1 = value.log2 := by
  have low := Nat.log2_self_le (Nat.ne_of_gt positive)
  have one : Nat.log2 1 = 0 := by decide
  rw [floorLog2]
  simp [one, low]

namespace FiniteDouble

def whole (x : FiniteDouble) : Nat := x.significand * 2 ^ x.exponent.toNat

theorem truncate_of_whole {x : FiniteDouble} (steps : 0 ≤ x.exponent)
    (positive : x.negative = false) : x.truncate = x.whole := by
  have none : (-x.exponent).toNat = 0 := by omega
  simp [truncate, positive, none, whole]

end FiniteDouble

namespace Precision

theorem nearest_double_one {value shift : Nat} (low : 2 ^ (52 + shift) ≤ value)
    (high : value < 2 ^ (53 + shift)) :
    double.nearest value 1 =
      if roundHalfEven value (2 ^ shift) = 2 ^ 53 then
        (2 ^ 52, (shift : Int) + 1)
      else (roundHalfEven value (2 ^ shift), (shift : Int)) := by
  have positive : 0 < value := Nat.lt_of_lt_of_le (Nat.two_pow_pos _) low
  have logarithm : value.log2 = 52 + shift := by
    rw [Nat.log2_eq_iff (Nat.ne_of_gt positive)]
    exact ⟨low, by rwa [Nat.add_right_comm]⟩
  have exponent : max double.least
      (floorLog2 value 1 - (double.digits - 1)) = shift := by
    rw [floorLog2_one positive, logarithm]
    simp only [double]
    omega
  rw [nearest]
  simp only [exponent]
  simp [double]

end Precision

namespace Double

/-- An integer of more than 53 bits loses the last ones. -/
theorem ofInt_large {value shift : Nat} (low : 2 ^ (52 + shift) ≤ value)
    (high : value < 2 ^ (53 + shift)) (small : shift < 971) :
    ∃ x : FiniteDouble, ofInt value = .finite x ∧ x.negative = false ∧
      0 ≤ x.exponent ∧ 2 * value ≤ 2 * x.whole + 2 ^ shift ∧
      2 * x.whole ≤ 2 * value + 2 ^ shift := by
  have near := roundHalfEven_near value (Nat.two_pow_pos shift)
  have rounded : ofInt value =
      ofParts false (Precision.double.nearest value 1).1
        (Precision.double.nearest value 1).2 := by
    have positive : value ≠ 0 :=
      Nat.ne_of_gt (Nat.lt_of_lt_of_le (Nat.two_pow_pos _) low)
    have unsigned : decide ((value : Int) < 0) = false :=
      decide_eq_false (by omega)
    simp [ofInt, ofRatio, positive, unsigned]
  rw [rounded, Precision.nearest_double_one low high]
  rw [Nat.pow_add] at low high
  generalize roundHalfEven value (2 ^ shift) = significand at near ⊢
  have atLeast : 2 ^ 52 ≤ significand := by
    have : 2 * 2 ^ 52 * 2 ^ shift ≤ (2 * significand + 1) * 2 ^ shift := by
      linarith
    have := Nat.le_of_mul_le_mul_right this (Nat.two_pow_pos shift)
    omega
  have atMost : significand ≤ 2 ^ 53 := by
    have : 2 * significand * 2 ^ shift < (2 * 2 ^ 53 + 1) * 2 ^ shift := by
      linarith
    have := Nat.lt_of_mul_lt_mul_right this
    omega
  split
  next carried =>
    have canonical : Precision.double.Canonical (2 ^ 52) (shift + 1) := by
      simp only [Precision.Canonical, Precision.double]
      omega
    have whole : 2 ^ 52 * 2 ^ ((shift : Int) + 1).toNat =
        significand * 2 ^ shift := by
      rw [carried, Int.toNat_natCast_add_one, Nat.pow_succ]
      ring
    refine ⟨⟨false, 2 ^ 52, shift + 1, canonical⟩, dif_pos canonical, rfl,
      Int.le_add_one (Int.natCast_nonneg shift), ?_⟩
    rwa [FiniteDouble.whole, whole]
  next uncarried =>
    have canonical : Precision.double.Canonical significand shift := by
      simp only [Precision.Canonical, Precision.double]
      omega
    exact ⟨⟨false, significand, shift, canonical⟩, dif_pos canonical, rfl,
      Int.natCast_nonneg shift, near⟩

end Double

end Orchestration
