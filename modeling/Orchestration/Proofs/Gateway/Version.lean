import Orchestration.Gateway.Version
import Orchestration.Proofs.Number.Reading
import Orchestration.Proofs.Text.Split

namespace Orchestration.Version

open Text

/-- Digits without leading zeros, for a number that fits an unsigned word. -/
structure IsNumber (digits : List Char) (value : Nat) : Prop where
  decimal : IsDecimal digits value
  plain : digits.length = 1 ∨ digits.head? ≠ some '0'
  fits : value < 2 ^ 64

def marked (mark : Char) : List (List Char) → List Char
  | [] => []
  | parts => mark :: ['.'].intercalate parts

@[simp] theorem marked_nil (mark : Char) : marked mark [] = [] := rfl

/-- A text that a version is written as. -/
inductive IsSpelling : List Char → Version → Prop where
  | of {version : Version} {first second third : List Char}
      (major : IsNumber first version.major)
      (minor : IsNumber second version.minor)
      (patch : IsNumber third version.patch)
      (prerelease : ∀ part ∈ version.prerelease,
        IsIdentifier part ∧ IsPlain part)
      (build : ∀ part ∈ version.build, IsIdentifier part) :
      IsSpelling (['.'].intercalate [first, second, third] ++
        marked '-' version.prerelease ++ marked '+' version.build) version

theorem number?_eq_some_iff {digits : List Char} {value : Nat} :
    number? digits = some value ↔ IsNumber digits value := by
  rw [number?, Option.ite_none_right_eq_some, List.all_eq_true,
    greatestUnsigned]
  constructor
  · rintro ⟨⟨nonempty, all, plain, fits⟩, ⟨⟩⟩
    exact ⟨⟨nonempty, all, (valueOf_eq_ofDigits digits).symm⟩, plain, by omega⟩
  · rintro ⟨⟨nonempty, all, rfl⟩, plain, fits⟩
    rw [valueOf_eq_ofDigits]
    exact ⟨⟨nonempty, all, plain, by omega⟩, rfl⟩

theorem isNumber_digitChar {value : Nat} (small : value < 10) :
    IsNumber [value.digitChar] value where
  decimal := by
    have written := isDecimal_toDigits value
    rwa [Nat.toDigits_of_lt_base small] at written
  plain := .inl rfl
  fits := by omega

theorem IsNumber.of_lt_ten {digits : List Char} {value : Nat}
    (number : IsNumber digits value) (small : value < 10) :
    digits = [value.digitChar] := by
  obtain ⟨⟨nonempty, all, worth⟩, plain, -⟩ := number
  rw [← valueOf_eq_ofDigits] at worth
  obtain ⟨c, rest, rfl⟩ := List.exists_cons_of_ne_nil nonempty
  have digit := all c List.mem_cons_self
  cases rest with
  | nil =>
      have place : c.toNat - 48 = value := by
        simpa [valueOf, digitValue] using worth
      rw [isDigit_iff] at digit
      rw [List.cons.injEq, ← Char.toNat_inj,
        Nat.toNat_digitChar_of_lt_ten small]
      exact ⟨by omega, rfl⟩
  | cons d rest =>
      have leading : c ≠ '0' := by simpa using plain
      have least : 10 ^ (d :: rest).length ≤ valueOf (c :: d :: rest) :=
        le_valueOf digit leading
      rw [worth, List.length_cons, Nat.pow_succ] at least
      have positive : 0 < 10 ^ rest.length := Nat.pow_pos (by decide)
      omega

theorem IsNumber.free {digits : List Char} {value : Nat}
    (number : IsNumber digits value) {c : Char} (other : isDigit c = false) :
    c ∉ digits := by
  intro member
  rw [number.decimal.all c member] at other
  cases other

theorem numbers?_eq_some_iff {text : List Char} {major minor patch : Nat} :
    numbers? text = some (major, minor, patch) ↔
      ∃ first second third, IsNumber first major ∧ IsNumber second minor ∧
        IsNumber third patch ∧
          text = ['.'].intercalate [first, second, third] := by
  constructor
  · intro read
    rw [numbers?] at read
    split at read
    next first second third cuts =>
      simp only [Option.bind_eq_bind, Option.bind_eq_some_iff,
        number?_eq_some_iff] at read
      obtain ⟨_, major, _, minor, _, patch, ⟨⟩⟩ := read
      exact ⟨first, second, third, major, minor, patch,
        (pieces_eq_iff.mp cuts).2.2⟩
    next => cases read
  · rintro ⟨first, second, third, major, minor, patch, joined⟩
    have solid : isDigit '.' = false := by decide
    have cuts : pieces '.' text = [first, second, third] :=
      pieces_eq_iff.mpr ⟨List.cons_ne_nil _ _, by
        simp [major.free solid, minor.free solid, patch.free solid], joined⟩
    rw [numbers?, cuts]
    simp [number?_eq_some_iff.mpr major, number?_eq_some_iff.mpr minor,
      number?_eq_some_iff.mpr patch]

theorem mem_numbers {first second third : List Char} {major minor patch : Nat}
    (one : IsNumber first major) (two : IsNumber second minor)
    (three : IsNumber third patch) {c : Char}
    (member : c ∈ ['.'].intercalate [first, second, third]) :
    c = '.' ∨ isDigit c = true := by
  refine (mem_intercalate member).imp_right ?_
  simp only [List.mem_cons, List.not_mem_nil, or_false]
  rintro ⟨part, rfl | rfl | rfl, within⟩
  · exact one.decimal.all c within
  · exact two.decimal.all c within
  · exact three.decimal.all c within

theorem isIdentifierChar_iff {c : Char} :
    isIdentifierChar c = true ↔
      48 ≤ c.toNat ∧ c.toNat ≤ 57 ∨ 97 ≤ c.toNat ∧ c.toNat ≤ 122 ∨
        65 ≤ c.toNat ∧ c.toNat ≤ 90 ∨ c.toNat = 45 := by
  simp only [isIdentifierChar, Bool.or_eq_true, isDigit_iff, decide_and_le_iff,
    decide_eq_true_eq, ← Char.toNat_inj, or_assoc]
  rfl

theorem IsIdentifier.free {part : List Char} (identifier : IsIdentifier part)
    {c : Char} (other : isIdentifierChar c = false) : c ∉ part := by
  intro member
  rw [List.all_eq_true.mp identifier.2 c member] at other
  cases other

theorem marked_of_ne_nil {mark : Char} {parts : List (List Char)}
    (some : parts ≠ []) :
    marked mark parts = mark :: ['.'].intercalate parts := by
  cases parts with
  | nil => exact absurd rfl some
  | cons part rest => rfl

theorem mem_marked {mark : Char} {parts : List (List Char)}
    (all : ∀ part ∈ parts, IsIdentifier part) {c : Char}
    (member : c ∈ marked mark parts) :
    c = mark ∨ c = '.' ∨ isIdentifierChar c = true := by
  by_cases some : parts = []
  · subst some
    cases member
  · rw [marked_of_ne_nil some] at member
    refine (List.mem_cons.mp member).imp_right fun within => ?_
    refine (mem_intercalate within).imp_right fun ⟨part, listed, among⟩ => ?_
    exact List.all_eq_true.mp (all part listed).2 c among

/-- What stands behind a mark is read as the identifiers that are there. -/
theorem cut_identifiers_iff {mark : Char} {text before : List Char}
    {parts : List (List Char)} :
    (∃ after, cut mark text = (before, after) ∧
        identifiers? after = some parts) ↔
      mark ∉ before ∧ (∀ part ∈ parts, IsIdentifier part) ∧
        text = before ++ marked mark parts := by
  constructor
  · rintro ⟨after, parted, read⟩
    cases after with
    | none =>
        cases read
        obtain ⟨free, rfl⟩ := cut_eq_none_iff.mp parted
        exact ⟨free, nofun, (List.append_nil _).symm⟩
    | some after =>
        obtain ⟨free, rfl⟩ := cut_eq_some_iff.mp parted
        rw [identifiers?, Option.ite_none_right_eq_some] at read
        obtain ⟨all, ⟨⟩⟩ := read
        obtain ⟨some, -, joined⟩ :=
          pieces_eq_iff.mp (Eq.refl (pieces '.' after))
        rw [marked_of_ne_nil some, ← joined]
        exact ⟨free, all, rfl⟩
  · rintro ⟨free, all, rfl⟩
    by_cases some : parts = []
    · subst some
      exact ⟨none, by rw [marked, List.append_nil, cut_whole free], rfl⟩
    · have solid : isIdentifierChar '.' = false := by decide
      have cuts : pieces '.' (['.'].intercalate parts) = parts :=
        pieces_eq_iff.mpr
          ⟨some, fun part member => (all part member).free solid, rfl⟩
      rw [marked_of_ne_nil some]
      refine ⟨_, cut_append free _, ?_⟩
      rw [identifiers?, cuts, if_pos all]

variable {text : List Char} {version : Version}

theorem read?_eq_some_iff_cut :
    read? text = some version ↔ ∃ front core,
      (∃ after, cut '+' text = (front, after) ∧
        identifiers? after = some version.build) ∧
      (∃ after, cut '-' front = (core, after) ∧
        identifiers? after = some version.prerelease) ∧
      numbers? core = some version.numbers ∧
        ∀ part ∈ version.prerelease, IsPlain part := by
  rw [read?]
  simp only [Option.bind_eq_bind, Option.bind_eq_some_iff,
    Option.ite_none_right_eq_some, Option.some.injEq, Prod.exists]
  constructor
  · rintro ⟨_, build, _, prerelease, _, _, _, numbers, plain, ⟨⟩⟩
    exact ⟨_, _, ⟨_, rfl, build⟩, ⟨_, rfl, prerelease⟩, numbers, plain⟩
  · rintro ⟨front, core, ⟨after, parted, build⟩, ⟨behind, divided, prerelease⟩,
      numbers, plain⟩
    simp only [parted, divided]
    exact ⟨_, build, _, prerelease, _, _, _, numbers, plain, rfl⟩

/-- Versions are read from their spellings and from nothing else. -/
theorem read?_eq_some_iff :
    read? text = some version ↔ IsSpelling text version := by
  simp only [read?_eq_some_iff_cut, cut_identifiers_iff, numbers,
    numbers?_eq_some_iff]
  constructor
  · rintro ⟨front, core, ⟨-, build, rfl⟩, ⟨-, prerelease, rfl⟩,
      ⟨first, second, third, major, minor, patch, rfl⟩, plain⟩
    exact .of major minor patch
      (fun part member => ⟨prerelease part member, plain part member⟩) build
  · rintro (@⟨_, first, second, third, major, minor, patch, prerelease, build⟩)
    have identifiers := fun part member => (prerelease part member).1
    have noPlus : '+' ∉ ['.'].intercalate [first, second, third] ++
        marked '-' version.prerelease := by
      intro member
      rcases List.mem_append.mp member with member | member
      · exact absurd (mem_numbers major minor patch member) (by decide)
      · exact absurd (mem_marked identifiers member) (by decide)
    have noHyphen : '-' ∉ ['.'].intercalate [first, second, third] := by
      intro member
      exact absurd (mem_numbers major minor patch member) (by decide)
    exact ⟨_, _, ⟨noPlus, build, rfl⟩, ⟨noHyphen, identifiers, rfl⟩,
      ⟨_, _, _, major, minor, patch, rfl⟩,
      fun part member => (prerelease part member).2⟩

theorem isBlank_of_isIdentifierChar {c : Char}
    (identifies : isIdentifierChar c = true) : isBlank c = false := by
  rw [isIdentifierChar_iff] at identifies
  simp [isBlank, blankRanges]
  omega

theorem solid_marked {mark : Char} (solid : isBlank mark = false)
    {parts : List (List Char)} (all : ∀ part ∈ parts, IsIdentifier part) :
    ∀ c ∈ marked mark parts, isBlank c = false := by
  intro c member
  rcases mem_marked all member with rfl | rfl | identifies
  · exact solid
  · decide
  · exact isBlank_of_isIdentifierChar identifies

theorem IsSpelling.solid (spelling : IsSpelling text version) :
    ∀ c ∈ text, isBlank c = false := by
  cases spelling with
  | of major minor patch prerelease build =>
      simp only [List.forall_mem_append, and_assoc]
      refine ⟨?_, ?_, ?_⟩
      · intro c member
        rcases mem_numbers major minor patch member with rfl | digit
        · decide
        · exact isBlank_of_isDigit digit
      · exact solid_marked (by decide) fun part member =>
          (prerelease part member).1
      · exact solid_marked (by decide) build

theorem read?_trim_eq_some_iff :
    read? (trim text) = some version ↔
      ∃ core, Surrounds text core ∧ IsSpelling core version := by
  rw [read?_eq_some_iff]
  constructor
  · intro spelling
    exact ⟨_, surrounds_trim text, spelling⟩
  · rintro ⟨core, around, spelling⟩
    rwa [around.trim_eq spelling.solid]

end Orchestration.Version
