import Orchestration.Json.Token
import Orchestration.Proofs.Number.Reading

namespace Orchestration

namespace Text

def StartsPlain (text : List Char) : Prop :=
  ∀ c ∈ text.head?, isDigit c = false

structure AreDigits (digits : List Char) : Prop where
  nonempty : digits ≠ []
  all : ∀ c ∈ digits, isDigit c = true

theorem spanDigits_append {digits rest : List Char}
    (all : ∀ c ∈ digits, isDigit c = true) (plain : StartsPlain rest) :
    spanDigits (digits ++ rest) = (digits, rest) := by
  rw [spanDigits, List.takeWhile_append_of_pos all,
    List.dropWhile_append_of_pos all]
  cases rest with
  | nil => rw [List.takeWhile_nil, List.append_nil, List.dropWhile_nil]
  | cons c rest =>
      have other := plain c rfl
      simp [other]

theorem areDigits_toDigits (value : Nat) : AreDigits (Nat.toDigits 10 value) :=
  ⟨(isDecimal_toDigits value).nonempty, (isDecimal_toDigits value).all⟩

theorem head?_toDigits {value : Nat} (nonzero : value ≠ 0) :
    (Nat.toDigits 10 value).head? ≠ some '0' := by
  induction value using Nat.strongRecOn with
  | ind value induction =>
      by_cases single : value < 10
      · rw [Nat.toDigits_of_lt_base single, List.head?_cons]
        intro zero
        have code := congrArg Char.toNat (Option.some.inj zero)
        rw [Nat.toNat_digitChar_of_lt_ten single] at code
        exact nonzero (Nat.add_left_cancel code)
      · rw [Nat.toDigits_of_base_le (by decide) (Nat.not_lt.mp single),
          List.head?_append_of_ne_nil _ Nat.toDigits_ne_nil]
        exact induction (value / 10) (by omega) (by omega)

end Text

open Text

namespace Json

/-- What may stand behind a value in a text: nothing, or the mark behind an item
or a field. -/
inductive Closes : List Char → Prop where
  | finish : Closes []
  | comma (rest : List Char) : Closes (',' :: rest)
  | bracket (rest : List Char) : Closes (']' :: rest)
  | brace (rest : List Char) : Closes ('\x7d' :: rest)

theorem Closes.startsPlain {rest : List Char} (closes : Closes rest) :
    StartsPlain rest := by
  cases closes <;> simp [StartsPlain, isDigit_iff, ← Bool.not_eq_true]

/-- The parts of a number in a text. An exponent is there as it is written and
with its value. -/
structure NumberParts where
  negative : Bool
  whole : List Char
  fraction : Option (List Char)
  exponent : Option (List Char × Int)

namespace NumberParts

structure Sound (parts : NumberParts) : Prop where
  whole : AreDigits parts.whole
  alone : parts.whole.head? = some '0' → parts.whole = ['0']
  fraction : ∀ digits ∈ parts.fraction, AreDigits digits
  exponent : ∀ exponent ∈ parts.exponent, IsInteger exponent.1 exponent.2

def fractionText : Option (List Char) → List Char
  | none => []
  | some digits => '.' :: digits

def exponentText : Option (List Char × Int) → List Char
  | none => []
  | some exponent => 'e' :: exponent.1

def text (parts : NumberParts) : List Char :=
  (if parts.negative then ['-'] else []) ++ parts.whole ++
    fractionText parts.fraction ++ exponentText parts.exponent

def value (parts : NumberParts) : Option Number :=
  Token.numberValue parts.negative parts.whole parts.fraction
    (parts.exponent.map (·.2))

end NumberParts

namespace Token

theorem readMinus_digits {negative : Bool} {digits rest : List Char}
    (digit : AreDigits digits) :
    readMinus ((if negative then ['-'] else []) ++ digits ++ rest) =
      (negative, digits ++ rest) := by
  cases negative with
  | true => rfl
  | false =>
      cases digits with
      | nil => exact absurd rfl digit.nonempty
      | cons c tail =>
          have plain : c ≠ '-' := by
            rintro rfl
            cases digit.all '-' List.mem_cons_self
          simp [readMinus, plain]

theorem wholeDigits_append {digits rest : List Char} (digit : AreDigits digits)
    (alone : digits.head? = some '0' → digits = ['0'])
    (plain : StartsPlain rest) :
    wholeDigits (digits ++ rest) = some (digits, rest) := by
  rw [wholeDigits, spanDigits_append digit.all plain]
  cases digits with
  | nil => exact absurd rfl digit.nonempty
  | cons c tail =>
      by_cases zero : c = '0'
      · subst zero
        obtain ⟨-, rfl⟩ := List.cons_eq_cons.mp (alone rfl)
        rfl
      · simp [zero]

theorem fractionDigits_append {fraction : Option (List Char)} {rest : List Char}
    (digit : ∀ digits ∈ fraction, AreDigits digits) (plain : StartsPlain rest)
    (pointless : rest.head? ≠ some '.') :
    fractionDigits (NumberParts.fractionText fraction ++ rest) =
      some (fraction, rest) := by
  cases fraction with
  | none =>
      cases rest with
      | nil => rfl
      | cons c tail =>
          have other : c ≠ '.' := fun same => pointless (same ▸ rfl)
          simp [NumberParts.fractionText, fractionDigits, other]
  | some digits =>
      obtain ⟨nonempty, all⟩ := digit digits rfl
      simp only [NumberParts.fractionText, List.cons_append, fractionDigits,
        spanDigits_append all plain]

theorem readSign_digits {digits : List Char} (digit : AreDigits digits)
    (rest : List Char) :
    Numeral.readSign (digits ++ rest) = (false, digits ++ rest) := by
  cases digits with
  | nil => exact absurd rfl digit.nonempty
  | cons c tail =>
      rcases Numeral.readSign_cases (c :: tail ++ rest) with
        ⟨_, same, -⟩ | ⟨_, same, -⟩ | read
      · obtain ⟨rfl, -⟩ := List.cons_eq_cons.mp same
        cases digit.all '-' List.mem_cons_self
      · obtain ⟨rfl, -⟩ := List.cons_eq_cons.mp same
        cases digit.all '+' List.mem_cons_self
      · exact read

theorem exists_readSign {integer : List Char} {value : Int}
    (rest : List Char) (written : IsInteger integer value) :
    ∃ negative digits, AreDigits digits ∧
      Numeral.readSign (integer ++ rest) = (negative, digits ++ rest) ∧
      (if negative then -(valueOf digits : Int) else valueOf digits) =
        value := by
  cases written with
  | plain decimal =>
      have digit : AreDigits integer := ⟨decimal.nonempty, decimal.all⟩
      refine ⟨false, integer, digit, readSign_digits digit rest, ?_⟩
      rw [if_neg Bool.false_ne_true, valueOf_eq_ofDigits, decimal.value]
  | plus decimal =>
      refine ⟨false, _, ⟨decimal.nonempty, decimal.all⟩, rfl, ?_⟩
      rw [if_neg Bool.false_ne_true, valueOf_eq_ofDigits, decimal.value]
  | minus decimal =>
      refine ⟨true, _, ⟨decimal.nonempty, decimal.all⟩, rfl, ?_⟩
      rw [if_pos rfl, valueOf_eq_ofDigits, decimal.value]

theorem exponentValue_append {exponent : Option (List Char × Int)}
    {rest : List Char}
    (integer : ∀ part ∈ exponent, IsInteger part.1 part.2)
    (closes : Closes rest) :
    exponentValue (NumberParts.exponentText exponent ++ rest) =
      some (exponent.map (·.2), rest) := by
  cases exponent with
  | none => cases closes <;> rfl
  | some part =>
      obtain ⟨negative, digits, ⟨nonempty, all⟩, read, value⟩ :=
        exists_readSign rest (integer part rfl)
      simp [NumberParts.exponentText, exponentValue, read,
        spanDigits_append all closes.startsPlain, value]

theorem number?_text {parts : NumberParts} {rest : List Char}
    (sound : parts.Sound) (closes : Closes rest) :
    number? (parts.text ++ rest) = some (.number parts.value, rest) := by
  have afterFraction : StartsPlain
      (NumberParts.exponentText parts.exponent ++ rest) ∧
      (NumberParts.exponentText parts.exponent ++ rest).head? ≠ some '.' := by
    cases parts.exponent with
    | none =>
        refine ⟨closes.startsPlain, ?_⟩
        cases closes <;> simp [NumberParts.exponentText]
    | some part => simp [NumberParts.exponentText, StartsPlain, isDigit]
  have afterWhole : StartsPlain (NumberParts.fractionText parts.fraction ++
      (NumberParts.exponentText parts.exponent ++ rest)) := by
    cases parts.fraction with
    | none => exact afterFraction.1
    | some digits => simp [NumberParts.fractionText, StartsPlain, isDigit]
  rw [number?, NumberParts.text, List.append_assoc, List.append_assoc,
    readMinus_digits sound.whole]
  simp only [wholeDigits_append sound.whole sound.alone afterWhole,
    fractionDigits_append sound.fraction afterFraction.1 afterFraction.2,
    exponentValue_append sound.exponent closes, Option.bind_eq_bind,
    Option.bind_some]
  rfl

end Token

namespace NumberParts

variable {parts : NumberParts} {negative : Bool} {text : List Char}
  {magnitude : ℚ}

def numeral (parts : NumberParts) : Numeral where
  negative := parts.negative
  digits := parts.whole ++ parts.fraction.getD []
  scale := (parts.exponent.map (·.2)).getD 0 - (parts.fraction.getD []).length

/-- The parts of a text that is worth a real and is no integer. -/
structure Writes (parts : NumberParts) (negative : Bool) (text : List Char)
    (magnitude : ℚ) : Prop where
  sound : parts.Sound
  sign : parts.negative = negative
  text : parts.text = (if negative then ['-'] else []) ++ text
  real : parts.fraction.isSome ∨ parts.exponent.isSome
  magnitude : parts.numeral.magnitude = magnitude

theorem value_eq (real : parts.fraction.isSome ∨ parts.exponent.isSome) :
    parts.value = parts.numeral.toDouble.finite?.map .real := by
  obtain ⟨negative, whole, fraction, exponent⟩ := parts
  cases fraction with
  | some fraction => cases exponent <;> rfl
  | none =>
      cases exponent with
      | some exponent => rfl
      | none => simp at real

theorem Writes.digits (writes : parts.Writes negative text magnitude) :
    ∀ c ∈ parts.numeral.digits, isDigit c = true := by
  intro c member
  rcases List.mem_append.mp member with whole | fraction
  · exact writes.sound.whole.all c whole
  · cases same : parts.fraction with
    | none => simp [same] at fraction
    | some digits =>
        rw [same, Option.getD_some] at fraction
        exact (writes.sound.fraction digits same).all c fraction

theorem Writes.value {x : FiniteDouble}
    (writes : parts.Writes x.negative text magnitude)
    (nonzero : 0 < x.significand) (covers : x.Covers magnitude) :
    parts.value = some (.real x) := by
  rw [← writes.magnitude] at covers
  rw [value_eq writes.real, Numeral.toDouble_of_covers writes.digits nonzero
    covers writes.sign]
  rfl

end NumberParts

end Json

end Orchestration
