import Orchestration.Json.Printer
import Orchestration.Proofs.Json.NumberParts

namespace Orchestration

open Text

/-! A number that was written is read again: doubles stand with a point or an
exponent, integers without. -/

namespace Layout

open Json NumberParts

variable {digits : List Char} {exponent : Int} {negative : Bool}

theorem toList_zeros (count : Nat) :
    (zeros count).toList = List.replicate count '0' := by
  rw [zeros, String.toList_ofList]

theorem areDigits_zeros_append (digit : AreDigits digits) (count : Nat) :
    AreDigits (List.replicate count '0' ++ digits) where
  nonempty := List.append_ne_nil_of_right_ne_nil _ digit.nonempty
  all := List.forall_mem_append.mpr
    ⟨fun _ zero => List.eq_of_mem_replicate zero ▸ rfl, digit.all⟩

theorem areDigits_append_zeros (digit : AreDigits digits) (count : Nat) :
    AreDigits (digits ++ List.replicate count '0') where
  nonempty := List.append_ne_nil_of_left_ne_nil digit.nonempty _
  all := List.forall_mem_append.mpr
    ⟨digit.all, fun _ zero => List.eq_of_mem_replicate zero ▸ rfl⟩

theorem writes_before (digit : AreDigits digits) (negative : Bool)
    (count : Nat) :
    Writes ⟨negative, ['0'], some (List.replicate count '0' ++ digits), none⟩
      negative ("0." ++ zeros count ++ String.ofList digits).toList
      (valueOf digits * 10 ^ (-(count + digits.length) : Int)) where
  sound := ⟨⟨by simp, by simp [isDigit]⟩, fun _ => rfl,
    fun _ same => Option.some.inj same ▸ areDigits_zeros_append digit count,
    by simp⟩
  sign := rfl
  text := by
    simp [NumberParts.text, fractionText, exponentText, toList_zeros]
  real := .inl rfl
  magnitude := by
    have zero : ∀ c ∈ '0' :: List.replicate count '0', c = '0' :=
      List.forall_mem_cons.mpr ⟨rfl, fun _ => List.eq_of_mem_replicate⟩
    have worth := valueOf_zeros_append zero digits
    rw [List.cons_append] at worth
    simp [numeral, Numeral.magnitude, worth]

theorem writes_behind (digit : AreDigits digits)
    (leading : digits.head? ≠ some '0') (negative : Bool) (count : Nat) :
    Writes ⟨negative, digits ++ List.replicate count '0', some ['0'], none⟩
      negative (String.ofList digits ++ zeros count ++ ".0").toList
      (valueOf digits * 10 ^ (count : Int)) where
  sound := by
    refine ⟨areDigits_append_zeros digit count, fun zero => ?_,
      fun _ same => Option.some.inj same ▸ ⟨by simp, by simp [isDigit]⟩,
      by simp⟩
    rw [List.head?_append_of_ne_nil _ digit.nonempty] at zero
    exact absurd zero leading
  sign := rfl
  text := by
    simp [NumberParts.text, fractionText, exponentText, toList_zeros]
  real := .inl rfl
  magnitude := by
    have zero : ∀ c ∈ List.replicate count '0' ++ ['0'], c = '0' :=
      List.forall_mem_append.mpr
        ⟨fun _ => List.eq_of_mem_replicate, fun _ => List.mem_singleton.mp⟩
    have worth := valueOf_append_zeros zero digits
    rw [List.length_append, List.length_replicate] at worth
    simp [numeral, Numeral.magnitude, worth, pow_succ, ← mul_assoc]

theorem writes_among (digit : AreDigits digits)
    (leading : digits.head? ≠ some '0') (negative : Bool) {point : Nat}
    (started : 0 < point) (inside : point < digits.length) :
    Writes ⟨negative, digits.take point, some (digits.drop point), none⟩
      negative
      (String.ofList (digits.take point) ++ "." ++
        String.ofList (digits.drop point)).toList
      (valueOf digits * 10 ^ (point - digits.length : Int)) where
  sound := by
    have some : digits.take point ≠ [] := fun none => by
      have length := congrArg List.length none
      rw [List.length_take, List.length_nil] at length
      omega
    refine ⟨⟨some, fun c member => digit.all c
        (List.mem_of_mem_take member)⟩, fun zero => ?_,
      fun _ same => Option.some.inj same ▸ ⟨by simpa using inside,
        fun c member => digit.all c (List.mem_of_mem_drop member)⟩, by simp⟩
    rw [List.head?_take, if_neg started.ne'] at zero
    exact absurd zero leading
  sign := rfl
  text := by simp [NumberParts.text, fractionText, exponentText]
  real := .inl rfl
  magnitude := by
    have places : (0 - ((digits.drop point).length : Int)) =
        point - digits.length := by
      rw [List.length_drop]
      omega
    simp only [numeral, Numeral.magnitude, Option.getD_some,
      List.take_append_drop, Option.map_none, Option.getD_none, places]

theorem exists_writes_plain (digit : AreDigits digits)
    (leading : digits.head? ≠ some '0') (negative : Bool) :
    ∃ parts : NumberParts,
      parts.Writes negative (plain digits exponent).toList
        (valueOf digits * 10 ^ (exponent + 1 - digits.length)) := by
  rw [plain]
  split
  next before =>
    have place : exponent + 1 - digits.length =
        -(((-(exponent + 1)).toNat : Int) + digits.length) := by omega
    rw [place]
    exact ⟨_, writes_before digit negative _⟩
  next started =>
    split
    next behind =>
      have place : exponent + 1 - digits.length =
          (((exponent + 1).toNat - digits.length : Nat) : Int) := by omega
      rw [place]
      exact ⟨_, writes_behind digit leading negative _⟩
    next among =>
      have place : exponent + 1 - digits.length =
          ((exponent + 1).toNat : Int) - digits.length := by omega
      rw [place]
      exact ⟨_, writes_among digit leading negative (by omega) (by omega)⟩

theorem isInteger_signed (plus : Bool) (exponent : Int) :
    IsInteger
      ((if plus && decide (0 ≤ exponent) then "+" else "") ++
        toString exponent).toList exponent := by
  split
  next signed =>
    have positive := of_decide_eq_true (Bool.and_eq_true_iff.mp signed).2
    have written := IsInteger.plus (isDecimal_toDigits exponent.toNat)
    rw [Int.toNat_of_nonneg positive] at written
    rw [Int.toString_eq_repr, Int.repr_eq_if, if_pos positive,
      Nat.repr_eq_ofList_toDigits]
    simpa using written
  next => simpa using isInteger_toString exponent

theorem exists_writes_scientific (layout : Layout) (digit : AreDigits digits)
    (leading : digits.head? ≠ some '0') (negative : Bool) :
    ∃ parts : NumberParts,
      parts.Writes negative (layout.scientific digits exponent).toList
        (valueOf digits * 10 ^ (exponent + 1 - digits.length)) := by
  obtain ⟨nonempty, all⟩ := digit
  have written := isInteger_signed layout.exponentPlus exponent
  cases digits with
  | nil => exact absurd rfl nonempty
  | cons c rest =>
      have one : AreDigits [c] :=
        ⟨by simp, by simpa using all c List.mem_cons_self⟩
      have alone : [c].head? = some '0' → [c] = ['0'] :=
        fun zero => absurd zero leading
      generalize marked :
        ((if layout.exponentPlus && decide (0 ≤ exponent) then "+" else "") ++
          toString exponent).toList = mark at written
      have integer : ∀ part ∈ some (mark, exponent), IsInteger part.1 part.2 :=
        fun _ same => Option.some.inj same ▸ written
      cases rest with
      | nil =>
          refine ⟨⟨negative, [c], none, some (mark, exponent)⟩,
            ⟨one, alone, by simp, integer⟩, rfl, ?_, .inr rfl, ?_⟩
          · simp [NumberParts.text, scientific, fractionText, exponentText,
              ← marked]
          · simp [numeral, Numeral.magnitude]
      | cons d rest =>
          have others : AreDigits (d :: rest) :=
            ⟨by simp, fun c member => all c (List.mem_cons_of_mem _ member)⟩
          refine ⟨⟨negative, [c], some (d :: rest), some (mark, exponent)⟩,
            ⟨one, alone, fun _ same => Option.some.inj same ▸ others, integer⟩,
            rfl, ?_, .inl rfl, ?_⟩
          · simp [NumberParts.text, scientific, fractionText, exponentText,
              ← marked]
          · have place : exponent - ((d :: rest).length : Int) =
                exponent + 1 - (c :: d :: rest).length := by
              rw [List.length_cons, List.length_cons, List.length_cons]
              omega
            simp only [numeral, Numeral.magnitude, Option.map_some,
              Option.getD_some, List.singleton_append, place]

theorem exists_writes_magnitude (layout : Layout) {x : FiniteDouble}
    (nonzero : 0 < x.significand) (negative : Bool) :
    ∃ parts : NumberParts,
      parts.Writes negative (layout.magnitude x).toList
        (x.shortest layout.tie).value := by
  have positive : (x.shortest layout.tie).digits ≠ 0 := fun zero => by
    have some := (x.covers_shortest nonzero layout.tie).positive nonzero
    rw [Decimal.value, zero, Nat.cast_zero, zero_mul] at some
    exact lt_irrefl 0 some
  have notZero : x.isZero = false := by simp [FiniteDouble.isZero, nonzero.ne']
  rw [magnitude, notZero, if_neg Bool.false_ne_true, Decimal.value]
  generalize x.shortest layout.tie = decimal at *
  have digit := areDigits_toDigits decimal.digits
  have leading := head?_toDigits positive
  have value : valueOf (Nat.toDigits 10 decimal.digits) = decimal.digits := by
    rw [valueOf_eq_ofDigits, (isDecimal_toDigits decimal.digits).value]
  simp only
  generalize Nat.toDigits 10 decimal.digits = digits at *
  have place : decimal.scale =
      decimal.scale + digits.length - 1 + 1 - digits.length := by omega
  rw [← value]
  conv in (10 : ℚ) ^ decimal.scale => rw [place]
  split
  · exact exists_writes_plain digit leading negative
  · exact exists_writes_scientific layout digit leading negative

theorem exists_parts (layout : Layout) (x : FiniteDouble) :
    ∃ parts : NumberParts, parts.Sound ∧
      parts.text = (layout.text x).toList ∧ parts.value = some (.real x) := by
  have sign : (if x.negative then "-" else "").toList =
      if x.negative then ['-'] else [] := by split <;> rfl
  rw [Layout.text, String.toList_append, sign]
  by_cases zero : x.significand = 0
  · have same : x = .zero x.negative := FiniteDouble.eq_zero zero
    refine ⟨⟨x.negative, ['0'], some ['0'], none⟩, ?_, ?_, ?_⟩
    · exact ⟨⟨by simp, by simp [isDigit]⟩, fun _ => rfl,
        fun _ same => Option.some.inj same ▸ ⟨by simp, by simp [isDigit]⟩,
        by simp⟩
    · simp [NumberParts.text, fractionText, exponentText, magnitude,
        FiniteDouble.isZero, zero]
    · rw [value_eq (.inl rfl), Numeral.toDouble_of_zeros (by simp [numeral])]
      exact congrArg (some ∘ Number.real) same.symm
  · have nonzero := Nat.pos_of_ne_zero zero
    obtain ⟨parts, writes⟩ :=
      exists_writes_magnitude layout nonzero x.negative
    exact ⟨parts, writes.sound, writes.text,
      writes.value nonzero (x.covers_shortest nonzero layout.tie)⟩

end Layout

namespace Json

/-- A word of 64 bits, with a sign or without. -/
def isWord (value : Int) : Bool :=
  leastSigned ≤ value && value ≤ greatestUnsigned

def Number.isWord : Number → Bool
  | .integer value => Json.isWord value
  | .real _ => true

theorem exists_parts_integer {value : Int} (least : leastSigned ≤ value)
    (greatest : value ≤ greatestUnsigned) :
    ∃ parts : NumberParts, parts.Sound ∧
      parts.text = (toString value).toList ∧
      parts.value = some (.integer value) := by
  have alone : ∀ value : Nat, (Nat.toDigits 10 value).head? = some '0' →
      Nat.toDigits 10 value = ['0'] := fun value zero => by
    by_cases nonzero : value = 0
    · rw [nonzero]
      rfl
    · exact absurd zero (head?_toDigits nonzero)
  have worth : ∀ value : Nat, valueOf (Nat.toDigits 10 value) = value :=
    fun value => by
      rw [valueOf_eq_ofDigits, (isDecimal_toDigits value).value]
  rw [Int.toString_eq_repr, Int.repr_eq_if, Nat.repr_eq_ofList_toDigits,
    Nat.repr_eq_ofList_toDigits]
  split
  next positive =>
    refine ⟨⟨false, Nat.toDigits 10 value.toNat, none, none⟩,
      ⟨areDigits_toDigits _, alone _, by simp, by simp⟩, ?_, ?_⟩
    · simp [NumberParts.text, NumberParts.fractionText,
        NumberParts.exponentText]
    · simp [NumberParts.value, Token.numberValue, Token.integerValue, worth,
        positive, least, greatest]
  next negative =>
    refine ⟨⟨true, Nat.toDigits 10 (-value).toNat, none, none⟩,
      ⟨areDigits_toDigits _, alone _, by simp, by simp⟩, ?_, ?_⟩
    · simp [NumberParts.text, NumberParts.fractionText,
        NumberParts.exponentText]
    · have same : -((-value).toNat : Int) = value := by omega
      have nonzero : value ≠ 0 := by omega
      simp only [NumberParts.value, Option.map_none, Token.numberValue,
        Token.integerValue, worth, same]
      simp [nonzero, least, greatest]

theorem Number.exists_parts {number : Number} (word : number.isWord = true) :
    ∃ parts : NumberParts, parts.Sound ∧
      parts.text = number.compact.toList ∧ parts.value = some number := by
  cases number with
  | integer value =>
      rw [isWord, Json.isWord, Bool.and_eq_true, decide_eq_true_eq,
        decide_eq_true_eq] at word
      exact exists_parts_integer word.1 word.2
  | real value => exact numberLayout.exists_parts value

namespace Token

theorem next?_number {c : Char} (first : c = '-' ∨ isDigit c = true)
    (rest : List Char) : next? (c :: rest) = number? (c :: rest) := by
  rw [next?.eq_def]
  split <;> first | rfl | (rename_i same; cases same; simp [isDigit] at first)

theorem exists_first {parts : NumberParts} (sound : parts.Sound) :
    ∃ c tail, parts.text = c :: tail ∧ (c = '-' ∨ isDigit c = true) := by
  rw [NumberParts.text, List.append_assoc]
  cases parts.negative with
  | true => exact ⟨'-', _, rfl, .inl rfl⟩
  | false =>
      obtain ⟨c, tail, shape⟩ :=
        List.exists_cons_of_ne_nil sound.whole.nonempty
      refine ⟨c, _, by rw [shape]; rfl, .inr (sound.whole.all c ?_)⟩
      rw [shape]
      exact List.mem_cons_self

theorem exists_first_compact {number : Number} (word : number.isWord = true) :
    ∃ c tail, number.compact.toList = c :: tail ∧
      (c = '-' ∨ isDigit c = true) := by
  obtain ⟨parts, sound, text, -⟩ := number.exists_parts word
  exact text ▸ exists_first sound

theorem next?_compact {number : Number} {rest : List Char}
    (word : number.isWord = true) (closes : Closes rest) :
    next? (number.compact.toList ++ rest) =
      some (.number (some number), rest) := by
  obtain ⟨parts, sound, text, value⟩ := number.exists_parts word
  obtain ⟨c, tail, shape, first⟩ := exists_first sound
  have begins : next? (parts.text ++ rest) = number? (parts.text ++ rest) := by
    rw [shape]
    exact next?_number first _
  rw [← text, begins, number?_text sound closes, value]

end Token

end Json

end Orchestration
