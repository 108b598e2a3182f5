import Mathlib.Data.Int.Log
import Mathlib.Data.Rat.Floor
import Mathlib.Tactic.FieldSimp
import Mathlib.Tactic.GCongr
import Mathlib.Tactic.NormNum
import Mathlib.Tactic.Positivity
import Orchestration.Number.Shortest
import Orchestration.Proofs.Number.Rounding

namespace Orchestration

/-! Which quotients are rounded to a double: those that are nearer to it than to
any other, and of those halfway between two the ones next to an even
significand. -/

theorem zpow_eq_div (base : Nat) (scale : Int) :
    (base : ℚ) ^ scale =
      ((base ^ scale.toNat : Nat) : ℚ) /
        ((base ^ (-scale).toNat : Nat) : ℚ) := by
  rcases Int.le_total 0 scale with up | down
  · obtain ⟨shift, rfl⟩ := Int.eq_ofNat_of_zero_le up
    have none : (-(shift : Int)).toNat = 0 := by omega
    rw [none, Int.toNat_natCast, Nat.pow_zero, Nat.cast_one, div_one,
      zpow_natCast, Nat.cast_pow]
  · obtain ⟨shift, same⟩ := Int.eq_ofNat_of_zero_le (Int.neg_nonneg.mpr down)
    obtain rfl : scale = -(shift : Int) := by omega
    have none : (-(shift : Int)).toNat = 0 := by omega
    rw [none, Int.neg_neg, Int.toNat_natCast, Nat.pow_zero, Nat.cast_one,
      zpow_neg, zpow_natCast, Nat.cast_pow, one_div]

theorem two_zpow_pos (exponent : Int) : (0 : ℚ) < 2 ^ exponent :=
  zpow_pos (by norm_num) exponent

theorem zpow_le_div_iff {numerator denominator : Nat} (below : 0 < denominator)
    (exponent : Int) :
    (2 : ℚ) ^ exponent ≤ numerator / denominator ↔
      denominator * 2 ^ exponent.toNat ≤ numerator * 2 ^ (-exponent).toNat := by
  have positive : (0 : ℚ) < denominator := Nat.cast_pos.mpr below
  have shift : (0 : ℚ) < ((2 ^ (-exponent).toNat : Nat) : ℚ) :=
    Nat.cast_pos.mpr (Nat.two_pow_pos _)
  rw [← Nat.cast_ofNat, zpow_eq_div, div_le_div_iff₀ shift positive,
    ← Nat.cast_mul, ← Nat.cast_mul, Nat.cast_le,
    Nat.mul_comm denominator]

theorem floorLog2_eq_log {numerator denominator : Nat} (above : 0 < numerator)
    (below : 0 < denominator) :
    floorLog2 numerator denominator =
      Int.log 2 (numerator / denominator : ℚ) := by
  have positive : (0 : ℚ) < numerator / denominator := by positivity
  have least : (2 : ℚ) ^ ((numerator.log2 : Int) - denominator.log2 - 1) ≤
      numerator / denominator := by
    have shape : (numerator.log2 : Int) - denominator.log2 - 1 =
        (numerator.log2 : Int) - ((denominator.log2 + 1 : Nat) : Int) := by
      omega
    rw [shape, zpow_sub₀ two_ne_zero, zpow_natCast, zpow_natCast]
    gcongr
    · exact_mod_cast Nat.log2_self_le above.ne'
    · exact_mod_cast Nat.lt_log2_self.le
  have greatest : (numerator / denominator : ℚ) <
      2 ^ ((numerator.log2 : Int) - denominator.log2 + 1) := by
    have shape : (numerator.log2 : Int) - denominator.log2 + 1 =
        ((numerator.log2 + 1 : Nat) : Int) - (denominator.log2 : Int) := by
      omega
    rw [shape, zpow_sub₀ two_ne_zero, zpow_natCast, zpow_natCast]
    gcongr
    · exact_mod_cast Nat.lt_log2_self
    · exact_mod_cast Nat.log2_self_le below.ne'
  have low := (Int.zpow_le_iff_le_log one_lt_two positive).mp least
  have high := (Int.lt_zpow_iff_log_lt one_lt_two positive).mp greatest
  rw [floorLog2]
  simp only [← zpow_le_div_iff below]
  split
  next reached =>
    have := (Int.zpow_le_iff_le_log one_lt_two positive).mp reached
    omega
  next missed =>
    have := mt (Int.zpow_le_iff_le_log one_lt_two positive).mpr missed
    omega

/-- No whole number is nearer to a real than this one; of two that are as near
it is the even one. -/
structure IsNearest (real : ℚ) (whole : Nat) : Prop where
  low : whole - 1 / 2 < real ∨ whole % 2 = 0 ∧ whole - 1 / 2 = real
  high : real < whole + 1 / 2 ∨ whole % 2 = 0 ∧ real = whole + 1 / 2

theorem IsNearest.whole {numerator denominator whole : Nat}
    (nearest : IsNearest (numerator / denominator) whole)
    (below : 0 < denominator) :
    (2 * (whole * denominator) < 2 * numerator + denominator ∨
        whole % 2 = 0 ∧
          2 * (whole * denominator) = 2 * numerator + denominator) ∧
      (2 * numerator < 2 * (whole * denominator) + denominator ∨
        whole % 2 = 0 ∧
          2 * numerator = 2 * (whole * denominator) + denominator) := by
  have positive : (0 : ℚ) < denominator := Nat.cast_pos.mpr below
  constructor
  · refine nearest.low.imp (fun less => ?_) (And.imp_right fun same => ?_)
    · rw [lt_div_iff₀ positive] at less
      have : (2 * (whole * denominator) : ℚ) < 2 * numerator + denominator := by
        linarith
      exact_mod_cast this
    · rw [eq_div_iff positive.ne'] at same
      have : (2 * (whole * denominator) : ℚ) = 2 * numerator + denominator := by
        linarith
      exact_mod_cast this
  · refine nearest.high.imp (fun less => ?_) (And.imp_right fun same => ?_)
    · rw [div_lt_iff₀ positive] at less
      have : (2 * numerator : ℚ) < 2 * (whole * denominator) + denominator := by
        linarith
      exact_mod_cast this
    · rw [div_eq_iff positive.ne'] at same
      have : (2 * numerator : ℚ) = 2 * (whole * denominator) + denominator := by
        linarith
      exact_mod_cast this

theorem IsNearest.roundHalfEven {numerator denominator whole : Nat}
    (nearest : IsNearest (numerator / denominator) whole)
    (below : 0 < denominator) :
    roundHalfEven numerator denominator = whole := by
  obtain ⟨low, high⟩ := nearest.whole below
  have parts := Nat.div_add_mod' numerator denominator
  have rest := Nat.mod_lt numerator below
  rw [Orchestration.roundHalfEven]
  generalize numerator / denominator = quotient at parts ⊢
  generalize numerator % denominator = remainder at parts rest ⊢
  have next : (quotient + 1) * denominator =
      quotient * denominator + denominator := Nat.succ_mul _ _
  have between : whole = quotient ∨ whole = quotient + 1 := by
    have atMost : whole < quotient + 2 := by
      refine Nat.lt_of_mul_lt_mul_right (a := denominator) ?_
      rw [Nat.succ_mul, next]
      omega
    have atLeast : quotient < whole + 1 := by
      refine Nat.lt_of_mul_lt_mul_right (a := denominator) ?_
      rw [Nat.succ_mul]
      omega
    omega
  rcases between with rfl | rfl
  · split
    · rfl
    · split <;> omega
  · rw [next] at low high
    split
    · omega
    · split <;> omega

namespace Precision

/-- The exponent of a quotient: that of its leading bit, less the bits behind
it, or the least one. -/
theorem exponent_eq {numerator denominator : Nat} {exponent : Int}
    (above : 0 < numerator) (below : 0 < denominator)
    (least : -1074 ≤ exponent)
    (low : (2 : ℚ) ^ (52 + exponent) ≤ numerator / denominator ∨
      exponent = -1074)
    (high : (numerator / denominator : ℚ) < 2 ^ (53 + exponent)) :
    max double.least (floorLog2 numerator denominator - (double.digits - 1)) =
      exponent := by
  have positive : (0 : ℚ) < numerator / denominator := by positivity
  have atMost := (Int.lt_zpow_iff_log_lt one_lt_two positive).mp high
  rw [floorLog2_eq_log above below]
  simp only [double]
  rcases low with reached | rfl
  · have atLeast := (Int.zpow_le_iff_le_log one_lt_two positive).mp reached
    omega
  · omega

theorem nearest_double {numerator denominator whole : Nat} {exponent : Int}
    (above : 0 < numerator) (below : 0 < denominator)
    (least : -1074 ≤ exponent)
    (low : (2 : ℚ) ^ (52 + exponent) ≤ numerator / denominator ∨
      exponent = -1074)
    (high : (numerator / denominator : ℚ) < 2 ^ (53 + exponent))
    (nearest : IsNearest (numerator / denominator / 2 ^ exponent) whole) :
    double.nearest numerator denominator =
      if whole = 2 ^ 53 then (2 ^ 52, exponent + 1) else (whole, exponent) := by
  have scaled : (numerator / denominator / 2 ^ exponent : ℚ) =
      ((numerator * 2 ^ (-exponent).toNat : Nat) : ℚ) /
        ((denominator * 2 ^ exponent.toNat : Nat) : ℚ) := by
    rw [← Nat.cast_ofNat, zpow_eq_div, div_div_div_eq, Nat.cast_mul,
      Nat.cast_mul]
  rw [scaled] at nearest
  rw [Precision.nearest, exponent_eq above below least low high]
  simp only [nearest.roundHalfEven (Nat.mul_pos below (Nat.two_pow_pos _))]
  rfl

end Precision

namespace FiniteDouble

/-- How far below its magnitude a double reaches, in units of its last place.
Below a power of two the next double is half as far away as above. -/
def reach (x : FiniteDouble) : ℚ := if x.narrowBelow then 1 / 4 else 1 / 2

/-- The reals that are rounded to the magnitude of a double: those up to halfway
to its neighbours, and for an even significand the middle, too. -/
structure Covers (x : FiniteDouble) (real : ℚ) : Prop where
  low : x.significand - x.reach < real / 2 ^ x.exponent ∨
    x.significand % 2 = 0 ∧
      x.significand - x.reach = real / 2 ^ x.exponent
  high : real / 2 ^ x.exponent < x.significand + 1 / 2 ∨
    x.significand % 2 = 0 ∧ real / 2 ^ x.exponent = x.significand + 1 / 2

variable {x : FiniteDouble} {numerator denominator : Nat}

theorem Covers.atLeast {real : ℚ} (covers : x.Covers real) :
    x.significand - x.reach ≤ real / 2 ^ x.exponent :=
  covers.low.elim le_of_lt fun tie => tie.2.le

theorem Covers.atMost {real : ℚ} (covers : x.Covers real) :
    real / 2 ^ x.exponent ≤ x.significand + 1 / 2 :=
  covers.high.elim le_of_lt fun tie => tie.2.le

theorem narrowBelow_iff :
    x.narrowBelow ↔ x.significand = 2 ^ 52 ∧ -1074 < x.exponent := by
  rw [narrowBelow, Bool.and_eq_true, beq_iff_eq, decide_eq_true_eq]

theorem zpow_le_iff (bits : Nat) {real : ℚ} {exponent : Int} :
    (2 : ℚ) ^ (bits + exponent) ≤ real ↔ 2 ^ bits ≤ real / 2 ^ exponent := by
  rw [zpow_add₀ two_ne_zero, le_div_iff₀ (two_zpow_pos exponent), zpow_natCast]

theorem lt_zpow_iff (bits : Nat) {real : ℚ} {exponent : Int} :
    real < (2 : ℚ) ^ (bits + exponent) ↔ real / 2 ^ exponent < 2 ^ bits := by
  rw [zpow_add₀ two_ne_zero, div_lt_iff₀ (two_zpow_pos exponent), zpow_natCast]

/-- Just below a power of two the steps are half as wide, and the significand
carries when it is rounded up. -/
theorem Covers.nearest_below (above : 0 < numerator) (below : 0 < denominator)
    (covers : x.Covers (numerator / denominator)) (narrow : x.narrowBelow)
    (under : (numerator / denominator / 2 ^ x.exponent : ℚ) < 2 ^ 52) :
    Precision.double.nearest numerator denominator =
      (x.significand, x.exponent) := by
  obtain ⟨significand, more⟩ := narrowBelow_iff.mp narrow
  have near := covers.atLeast
  rw [reach, if_pos narrow, significand] at near
  have finer : (numerator / denominator / 2 ^ (x.exponent - 1) : ℚ) =
      2 * (numerator / denominator / 2 ^ x.exponent) := by
    rw [zpow_sub_one₀ two_ne_zero]
    field_simp
  -- One exponent below, the nearest significand is one bit too long and carries
  -- back to the exponent of the double.
  have nearest : IsNearest
      (numerator / denominator / 2 ^ (x.exponent - 1)) (2 ^ 53) := by
    rw [finer]
    constructor
    · rcases near.lt_or_eq with less | tie
      · left
        norm_num at less ⊢
        linarith
      · right
        norm_num at tie ⊢
        linarith
    · left
      norm_num at under ⊢
      linarith
  rw [Precision.nearest_double above below (by omega)
    (.inl ((zpow_le_iff 52).mpr ?_)) ((lt_zpow_iff 53).mpr ?_) nearest,
    if_pos rfl, significand, Int.sub_add_cancel]
  · rw [finer]
    norm_num at near ⊢
    linarith
  · rw [finer]
    norm_num at under ⊢
    linarith

/-- Elsewhere a double is the nearest number of steps. -/
theorem Covers.nearest_within (above : 0 < numerator) (below : 0 < denominator)
    (covers : x.Covers (numerator / denominator))
    (reached : x.narrowBelow →
      2 ^ 52 ≤ (numerator / denominator / 2 ^ x.exponent : ℚ)) :
    Precision.double.nearest numerator denominator =
      (x.significand, x.exponent) := by
  obtain ⟨short, least, -, leading⟩ := x.canonical
  simp only [Precision.double] at short least leading
  have short' : (x.significand : ℚ) + 1 ≤ 2 ^ 53 := by exact_mod_cast short
  have nearest : IsNearest (numerator / denominator / 2 ^ x.exponent)
      x.significand := by
    refine ⟨?_, covers.high⟩
    by_cases narrow : x.narrowBelow
    · left
      have := reached narrow
      rw [(narrowBelow_iff.mp narrow).1]
      norm_num at this ⊢
      linarith
    · have low := covers.low
      rwa [reach, if_neg narrow] at low
  rw [Precision.nearest_double above below least ?_ ?_ nearest,
    if_neg (Nat.ne_of_lt short)]
  · refine or_iff_not_imp_right.mpr fun finer => (zpow_le_iff 52).mpr ?_
    have leading := leading.resolve_right finer
    by_cases narrow : x.narrowBelow
    · exact reached narrow
    · have apart : x.significand ≠ 2 ^ 52 := fun same =>
        narrow (narrowBelow_iff.mpr ⟨same, by omega⟩)
      have beyond : (2 ^ 52 + 1 : ℚ) ≤ x.significand := by
        exact_mod_cast Nat.lt_of_le_of_ne leading apart.symm
      have low := covers.atLeast
      rw [reach, if_neg narrow] at low
      linarith
  · refine (lt_zpow_iff 53).mpr (lt_of_le_of_lt covers.atMost ?_)
    linarith

/-- A quotient that a double covers is rounded to it. -/
theorem Covers.nearest (above : 0 < numerator) (below : 0 < denominator)
    (covers : x.Covers (numerator / denominator)) :
    Precision.double.nearest numerator denominator =
      (x.significand, x.exponent) := by
  by_cases under : x.narrowBelow ∧
      (numerator / denominator / 2 ^ x.exponent : ℚ) < 2 ^ 52
  · exact covers.nearest_below above below under.1 under.2
  · refine covers.nearest_within above below fun narrow => ?_
    exact not_lt.mp fun less => under ⟨narrow, less⟩

theorem Covers.ofRatio (above : 0 < numerator) (below : 0 < denominator)
    (covers : x.Covers (numerator / denominator)) :
    Double.ofRatio x.negative numerator denominator = .finite x := by
  rw [Double.ofRatio, if_neg above.ne']
  simp only [covers.nearest above below]
  exact dif_pos x.canonical

end FiniteDouble

end Orchestration
