import Mathlib.Data.List.Induction
import Mathlib.Data.List.TakeWhile
import Mathlib.Data.Nat.Digits.Defs
import Orchestration.Number.Numeral
import Orchestration.Text.Basic

namespace Orchestration

namespace Text

theorem decide_and_le_iff {low high c : Char} :
    (decide (low ≤ c) && decide (c ≤ high)) = true ↔
      low.toNat ≤ c.toNat ∧ c.toNat ≤ high.toNat := by
  rw [Bool.and_eq_true, decide_eq_true_eq, decide_eq_true_eq, Char.le_def,
    Char.le_def, UInt32.le_iff_toNat_le, UInt32.le_iff_toNat_le]
  rfl

theorem isDigit_iff {c : Char} :
    isDigit c = true ↔ 48 ≤ c.toNat ∧ c.toNat ≤ 57 :=
  decide_and_le_iff

theorem valueOf_concat (digits : List Char) (c : Char) :
    valueOf (digits ++ [c]) = 10 * valueOf digits + digitValue c := by
  rw [valueOf, List.foldl_append]
  rfl

theorem valueOf_eq_ofDigits (digits : List Char) :
    valueOf digits = Nat.ofDigits 10 (digits.reverse.map digitValue) := by
  induction digits using List.reverseRecOn with
  | nil => rfl
  | append_singleton digits c induction =>
      rw [valueOf_concat, induction, List.reverse_concat, List.map_cons,
        Nat.ofDigits_cons, Nat.add_comm]

/-- Digits, at least one, and the number that they stand for. -/
structure IsDecimal (digits : List Char) (value : Nat) : Prop where
  nonempty : digits ≠ []
  all : ∀ c ∈ digits, isDigit c = true
  value : Nat.ofDigits 10 (digits.reverse.map digitValue) = value

theorem isDecimal_toDigits (value : Nat) :
    IsDecimal (Nat.toDigits 10 value) value where
  nonempty := Nat.toDigits_ne_nil
  all c member := by
    have digit := Nat.isDigit_of_mem_toDigits (by decide) (by decide) member
    rw [isDigit_iff]
    exact Char.isDigit_iff_toNat.mp digit
  value := by
    rw [← valueOf_eq_ofDigits]
    exact Nat.ofDigitChars_toDigits (by decide) (by decide)

inductive IsInteger : List Char → Int → Prop where
  | plain (decimal : IsDecimal digits value) : IsInteger digits value
  | plus (decimal : IsDecimal digits value) : IsInteger ('+' :: digits) value
  | minus (decimal : IsDecimal digits value) :
      IsInteger ('-' :: digits) (-value)

theorem IsInteger.nonempty {text : List Char} {value : Int}
    (integer : IsInteger text value) : text ≠ [] := by
  cases integer with
  | plain decimal => exact decimal.nonempty
  | plus decimal | minus decimal => exact List.cons_ne_nil _ _

theorem isInteger_toString (value : Int) :
    IsInteger (toString value).toList value := by
  rw [Int.toString_eq_repr, Int.repr_eq_if, Nat.repr_eq_ofList_toDigits,
    Nat.repr_eq_ofList_toDigits]
  split
  next positive =>
    have written := IsInteger.plain (isDecimal_toDigits value.toNat)
    rw [Int.toNat_of_nonneg positive] at written
    simpa using written
  next negative =>
    have written := IsInteger.minus (isDecimal_toDigits (-value).toNat)
    rw [Int.toNat_of_nonneg (by omega), Int.neg_neg] at written
    simpa using written

/-- The text has nothing but blanks around its core. -/
def Surrounds (text core : List Char) : Prop :=
  ∃ before after, text = before ++ core ++ after ∧
    (∀ c ∈ before, isBlank c = true) ∧ ∀ c ∈ after, isBlank c = true

theorem surrounds_trim (text : List Char) : Surrounds text (trim text) := by
  let start := trimStart text
  refine ⟨text.takeWhile isBlank, (start.reverse.takeWhile isBlank).reverse,
    ?_, fun c => List.mem_takeWhile_imp, fun c member => ?_⟩
  · have finish : trimEnd start ++
        (start.reverse.takeWhile isBlank).reverse = start := by
      rw [trimEnd, ← List.reverse_append, List.takeWhile_append_dropWhile,
        List.reverse_reverse]
    rw [List.append_assoc, trim, finish]
    exact List.takeWhile_append_dropWhile.symm
  · exact List.mem_takeWhile_imp (List.mem_reverse.mp member)

private theorem dropWhile_solid {text : List Char}
    (solid : ∀ c ∈ text, isBlank c = false) :
    text.dropWhile isBlank = text := by
  cases text with
  | nil => rfl
  | cons c rest => simp [solid c List.mem_cons_self]

theorem Surrounds.trim_eq {text core : List Char} (around : Surrounds text core)
    (solid : ∀ c ∈ core, isBlank c = false) : trim text = core := by
  obtain ⟨before, after, rfl, first, last⟩ := around
  have start : trimStart (before ++ core ++ after) =
      (core ++ after).dropWhile isBlank := by
    rw [trimStart, List.append_assoc, List.dropWhile_append_of_pos first]
  cases core with
  | nil =>
      rw [trim, start, List.nil_append, List.dropWhile_eq_nil_iff.mpr last]
      rfl
  | cons c rest =>
      have kept : (c :: rest ++ after).dropWhile isBlank = c :: rest ++ after :=
        List.dropWhile_cons_of_neg (by simp [solid c List.mem_cons_self])
      rw [trim, start, kept, trimEnd, List.reverse_append,
        List.dropWhile_append_of_pos (by simpa using last),
        dropWhile_solid fun c member => solid c (List.mem_reverse.mp member),
        List.reverse_reverse]

end Text

open Text

namespace Numeral

theorem readSign_cases (text : List Char) :
    (∃ rest, text = '-' :: rest ∧ readSign text = (true, rest)) ∨
      (∃ rest, text = '+' :: rest ∧ readSign text = (false, rest)) ∨
      readSign text = (false, text) := by
  rw [readSign.eq_def]
  split
  · exact .inl ⟨_, rfl, rfl⟩
  · exact .inr (.inl ⟨_, rfl, rfl⟩)
  · exact .inr (.inr rfl)

theorem readSign_of_isDecimal {digits : List Char} {value : Nat}
    (decimal : IsDecimal digits value) :
    readSign digits = (false, digits) := by
  rcases readSign_cases digits with ⟨rest, rfl, -⟩ | ⟨rest, rfl, -⟩ | read
  · cases decimal.all '-' List.mem_cons_self
  · cases decimal.all '+' List.mem_cons_self
  · exact read

end Numeral

private theorem readDigits_eq_some_iff {digits : List Char} {negative : Bool}
    {value : Int} :
    (if digits ≠ [] ∧ digits.all isDigit then
        some (if negative then -(valueOf digits : Int) else valueOf digits)
      else none) = some value ↔
      ∃ magnitude, IsDecimal digits magnitude ∧
        (if negative then -(magnitude : Int) else magnitude) = value := by
  rw [Option.ite_none_right_eq_some, List.all_eq_true, Option.some.injEq]
  constructor
  · rintro ⟨⟨nonempty, all⟩, rfl⟩
    exact ⟨_, ⟨nonempty, all, (valueOf_eq_ofDigits digits).symm⟩, rfl⟩
  · rintro ⟨magnitude, ⟨nonempty, all, rfl⟩, rfl⟩
    rw [valueOf_eq_ofDigits]
    exact ⟨⟨nonempty, all⟩, rfl⟩

/-- Exactly the texts that stand for integers are read. -/
theorem readInteger_eq_some_iff {text : List Char} {value : Int} :
    readInteger text = some value ↔ IsInteger text value := by
  rw [readInteger]
  constructor
  · intro read
    rcases Numeral.readSign_cases text with
      ⟨rest, rfl, signed⟩ | ⟨rest, rfl, signed⟩ | signed <;>
      rw [signed] at read <;>
      obtain ⟨_, decimal, rfl⟩ := readDigits_eq_some_iff.mp read
    · exact .minus decimal
    · exact .plus decimal
    · exact .plain decimal
  · rintro (decimal | decimal | decimal)
    · rw [Numeral.readSign_of_isDecimal decimal]
      exact readDigits_eq_some_iff.mpr ⟨_, decimal, rfl⟩
    · exact readDigits_eq_some_iff.mpr ⟨_, decimal, rfl⟩
    · exact readDigits_eq_some_iff.mpr ⟨_, decimal, rfl⟩

theorem isBlank_of_isDigit {c : Char} (digit : isDigit c = true) :
    isBlank c = false := by
  rw [isDigit_iff] at digit
  simp [isBlank, blankRanges]
  omega

theorem Text.IsInteger.solid {text : List Char} {value : Int}
    (integer : IsInteger text value) : ∀ c ∈ text, isBlank c = false := by
  have digits : ∀ {digits : List Char} {value : Nat}, IsDecimal digits value →
      ∀ c ∈ digits, isBlank c = false :=
    fun decimal c member => isBlank_of_isDigit (decimal.all c member)
  cases integer with
  | plain decimal => exact digits decimal
  | plus decimal => exact List.forall_mem_cons.mpr ⟨rfl, digits decimal⟩
  | minus decimal => exact List.forall_mem_cons.mpr ⟨rfl, digits decimal⟩

theorem readInteger_trim_eq_some_iff {text : List Char} {value : Int} :
    readInteger (trim text) = some value ↔
      ∃ core, Surrounds text core ∧ IsInteger core value := by
  rw [readInteger_eq_some_iff]
  constructor
  · intro integer
    exact ⟨_, surrounds_trim text, integer⟩
  · rintro ⟨core, around, integer⟩
    rwa [around.trim_eq integer.solid]

end Orchestration
