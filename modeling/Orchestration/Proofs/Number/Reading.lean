import Orchestration.Proofs.Number.Numeral
import Orchestration.Proofs.Number.Shortest

namespace Orchestration

namespace Text

theorem valueOf_append (first second : List Char) :
    valueOf (first ++ second) =
      valueOf first * 10 ^ second.length + valueOf second := by
  rw [valueOf_eq_ofDigits, valueOf_eq_ofDigits, valueOf_eq_ofDigits,
    List.reverse_append, List.map_append, Nat.ofDigits_append, List.length_map,
    List.length_reverse]
  ring

theorem valueOf_zeros {zeros : List Char} (all : ∀ c ∈ zeros, c = '0') :
    valueOf zeros = 0 := by
  induction zeros with
  | nil => rfl
  | cons c rest induction =>
      obtain ⟨rfl, rest⟩ := List.forall_mem_cons.mp all
      rw [← List.singleton_append, valueOf_append, induction rest]
      exact Nat.zero_mul _

theorem valueOf_zeros_append {zeros : List Char} (all : ∀ c ∈ zeros, c = '0')
    (digits : List Char) : valueOf (zeros ++ digits) = valueOf digits := by
  rw [valueOf_append, valueOf_zeros all, Nat.zero_mul, Nat.zero_add]

theorem valueOf_append_zeros {zeros : List Char} (all : ∀ c ∈ zeros, c = '0')
    (digits : List Char) :
    valueOf (digits ++ zeros) = valueOf digits * 10 ^ zeros.length := by
  rw [valueOf_append, valueOf_zeros all, Nat.add_zero]

theorem valueOf_dropWhile (digits : List Char) :
    valueOf (digits.dropWhile (· = '0')) = valueOf digits := by
  conv_rhs =>
    rw [← List.takeWhile_append_dropWhile (p := (· = '0')) (l := digits)]
  refine (valueOf_zeros_append (fun c member => ?_) _).symm
  simpa using List.mem_takeWhile_imp member

theorem digitValue_lt {c : Char} (digit : isDigit c = true) :
    digitValue c < 10 := by
  rw [isDigit_iff] at digit
  rw [digitValue]
  simp only [Char.reduceToNat]
  omega

theorem valueOf_lt {digits : List Char} (all : ∀ c ∈ digits, isDigit c = true) :
    valueOf digits < 10 ^ digits.length := by
  rw [valueOf_eq_ofDigits]
  have small : ∀ place ∈ digits.reverse.map digitValue, place < 10 := by
    intro place member
    obtain ⟨c, digit, rfl⟩ := List.mem_map.mp member
    exact digitValue_lt (all c (List.mem_reverse.mp digit))
  have places := Nat.ofDigits_lt_base_pow_length (by decide : 1 < 10) small
  rwa [List.length_map, List.length_reverse] at places

theorem le_valueOf {c : Char} {rest : List Char} (digit : isDigit c = true)
    (leading : c ≠ '0') : 10 ^ rest.length ≤ valueOf (c :: rest) := by
  have positive : 1 ≤ digitValue c := by
    have code : c.toNat ≠ 48 := fun same =>
      leading (Char.toNat_inj.mp same)
    rw [isDigit_iff] at digit
    rw [digitValue]
    simp only [Char.reduceToNat]
    omega
  have first : valueOf [c] = digitValue c := by simp [valueOf]
  rw [← List.singleton_append, valueOf_append, first]
  exact Nat.le_add_right_of_le (Nat.le_mul_of_pos_left _ positive)

end Text

open Text

theorem FiniteDouble.eq_zero {x : FiniteDouble} (none : x.significand = 0) :
    x = .zero x.negative := by
  obtain ⟨-, -, -, leading⟩ := x.canonical
  rw [none] at leading
  have least : x.exponent = -1074 := leading.resolve_left (by decide)
  cases x
  cases none
  cases least
  rfl

namespace FiniteDouble.Covers

variable {x : FiniteDouble} {real : ℚ}

theorem two_pow_lt_extreme {bits : Nat} (few : bits ≤ 3 * 400) :
    (2 : ℚ) ^ bits < 10 ^ 400 :=
  calc
    (2 : ℚ) ^ bits ≤ 2 ^ (3 * 400) := pow_le_pow_right₀ one_le_two few
    _ = (2 ^ 3) ^ 400 := pow_mul ..
    _ < 10 ^ 400 := pow_lt_pow_left₀ (by norm_num) (by norm_num) (by norm_num)

/-- Nothing that a double covers is as great as the bound for numerals. -/
theorem lt_extreme (covers : x.Covers real) : real < 10 ^ (400 : Int) := by
  obtain ⟨short, -, greatest, -⟩ := x.canonical
  simp only [Precision.double] at short greatest
  have bits : (x.significand : ℚ) + 1 / 2 < 2 ^ (53 : Int) := by
    have : (x.significand : ℚ) + 1 ≤ 2 ^ 53 := by exact_mod_cast short
    norm_num at this ⊢
    linarith
  calc
    real ≤ (x.significand + 1 / 2) * 2 ^ x.exponent :=
      (div_le_iff₀ (two_zpow_pos _)).mp covers.atMost
    _ < 2 ^ (53 : Int) * 2 ^ x.exponent :=
      mul_lt_mul_of_pos_right bits (two_zpow_pos _)
    _ ≤ 2 ^ (53 : Int) * 2 ^ (971 : Int) := by
      gcongr
      norm_num
    _ = 2 ^ (53 + 971) := by rw [← zpow_add₀ two_ne_zero]; rfl
    _ < 10 ^ (400 : Int) := two_pow_lt_extreme (by norm_num)

theorem extreme_lt (covers : x.Covers real) (nonzero : 0 < x.significand) :
    10 ^ (-400 : Int) < real := by
  obtain ⟨-, least, -, -⟩ := x.canonical
  simp only [Precision.double] at least
  have half : (1 / 2 : ℚ) ≤ x.significand - x.reach := by
    have one : (1 : ℚ) ≤ x.significand := by exact_mod_cast nonzero
    rw [reach]
    split <;> linarith
  calc
    (10 ^ (-400 : Int) : ℚ) = (10 ^ 400)⁻¹ := zpow_neg ..
    _ < (2 ^ (1 + 1074))⁻¹ :=
      inv_strictAnti₀ (by positivity) (two_pow_lt_extreme (by norm_num))
    _ = 1 / 2 * 2 ^ (-1074 : Int) := by
      rw [pow_add, mul_inv, pow_one, one_div, zpow_neg]
      rfl
    _ ≤ 1 / 2 * 2 ^ x.exponent := by
      gcongr
      norm_num
    _ ≤ (x.significand - x.reach) * 2 ^ x.exponent :=
      mul_le_mul_of_nonneg_right half (two_zpow_pos _).le
    _ ≤ real := (le_div_iff₀ (two_zpow_pos _)).mp covers.atLeast

end FiniteDouble.Covers

namespace Numeral

variable {numeral : Numeral} {x : FiniteDouble}

def magnitude (numeral : Numeral) : ℚ :=
  valueOf numeral.digits * 10 ^ numeral.scale

theorem scale_bounds {digits : List Char} {scale : Int}
    (all : ∀ c ∈ digits, isDigit c = true) (leading : '0' ∉ digits.head?)
    (above : (10 : ℚ) ^ (-extremeScale) < valueOf digits * 10 ^ scale)
    (below : (valueOf digits * 10 ^ scale : ℚ) < 10 ^ extremeScale) :
    -extremeScale < digits.length + scale ∧
      digits.length + scale ≤ extremeScale := by
  cases digits with
  | nil =>
      rw [valueOf, List.foldl_nil, Nat.cast_zero, zero_mul] at above
      exact absurd above (not_lt.mpr (zpow_nonneg (by norm_num) _))
  | cons c rest =>
      have ten : (0 : ℚ) < 10 ^ scale := zpow_pos (by norm_num) _
      have digit := all c List.mem_cons_self
      have most : (valueOf (c :: rest) : ℚ) ≤ 10 ^ (c :: rest).length := by
        exact_mod_cast (valueOf_lt all).le
      have least : (10 ^ rest.length : ℚ) ≤ valueOf (c :: rest) := by
        exact_mod_cast le_valueOf digit fun zero => leading (zero ▸ rfl)
      have low := lt_of_lt_of_le above (mul_le_mul_of_nonneg_right most ten.le)
      have high :=
        lt_of_le_of_lt (mul_le_mul_of_nonneg_right least ten.le) below
      rw [← zpow_natCast, ← zpow_add₀ (by norm_num),
        zpow_lt_zpow_iff_right₀ (by norm_num)] at low high
      refine ⟨low, ?_⟩
      rw [List.length_cons]
      omega

/-- A numeral is read as the double that covers what it is worth. -/
theorem toDouble_of_covers (all : ∀ c ∈ numeral.digits, isDigit c = true)
    (nonzero : 0 < x.significand) (covers : x.Covers numeral.magnitude)
    (sign : numeral.negative = x.negative) : numeral.toDouble = .finite x := by
  have above := covers.extreme_lt nonzero
  have below := covers.lt_extreme
  have kept : ∀ c ∈ numeral.digits.dropWhile (· = '0'), isDigit c = true :=
    fun c member => all c ((List.dropWhile_suffix _).mem member)
  have leading : '0' ∉ (numeral.digits.dropWhile (· = '0')).head? := by
    intro zero
    have first := List.head?_dropWhile_not (· = '0') numeral.digits
    rw [Option.mem_def.mp zero] at first
    cases first
  -- Zeros in front are dropped first: only without them does the number of
  -- digits tell whether the shortcuts for extreme scales are taken.
  rw [magnitude, ← valueOf_dropWhile numeral.digits] at above below covers
  rw [toDouble, roundWith]
  generalize numeral.digits.dropWhile (· = '0') = digits at *
  have ratio : (valueOf digits * 10 ^ numeral.scale : ℚ) =
      ((valueOf digits * 10 ^ numeral.scale.toNat : Nat) : ℚ) /
        ((10 ^ (-numeral.scale).toNat : Nat) : ℚ) := by
    have shape := zpow_eq_div 10 numeral.scale
    rw [Nat.cast_ofNat] at shape
    rw [shape, Nat.cast_mul, mul_div_assoc]
  have positive : valueOf digits ≠ 0 := fun zero => by
    have some := covers.positive nonzero
    rw [zero, Nat.cast_zero, zero_mul] at some
    exact lt_irrefl 0 some
  obtain ⟨notSmall, notGreat⟩ := scale_bounds kept leading above below
  rw [ratio] at covers
  rw [if_neg positive, if_neg (not_lt.mpr notGreat),
    if_neg (not_lt.mpr notSmall.le), sign]
  exact covers.ofRatio (Nat.mul_pos (Nat.pos_of_ne_zero positive)
    (Nat.pow_pos (by decide))) (Nat.pow_pos (by decide))

theorem toDouble_of_zeros (zeros : ∀ c ∈ numeral.digits, c = '0') :
    numeral.toDouble = .finite (.zero numeral.negative) := by
  have none : numeral.digits.dropWhile (· = '0') = [] := by
    simpa using zeros
  rw [toDouble, roundWith, none]
  rfl

end Numeral

end Orchestration
