import Orchestration.Unicode.Composition
import Orchestration.Unicode.Mark
import Orchestration.Unicode.WritingDirection

namespace Orchestration.Unicode

open Text

/-! Characters of ASCII are no marks, do not join others, and are read from left
to right or either way. The tables list them nowhere as anything else. -/

/-! Words of tables. The letters of a text are given beside it, since no
evaluation gets through the decoding of a long one. -/

def wordsIn (letters : List Char) : List (List Char) :=
  let spaced := letters.map fun c => if c = '\n' then ' ' else c
  (pieces ' ' spaced).filter (!·.isEmpty)

theorem wordsOf_ofList {text : String} {letters : List Char}
    (spelled : text = String.ofList letters) :
    wordsOf text = wordsIn letters := by
  rw [spelled, wordsOf, String.toList_ofList]
  rfl

def Beyond (ranges : List Range) : Prop :=
  ∀ range ∈ ranges, 0x80 ≤ range.first

theorem beyond_ranges {text : String} {letters : List Char}
    (spelled : text = String.ofList letters)
    (all : (wordsIn letters).all (fun word =>
      0x80 ≤ (Range.ofWord word).first) = true) :
    Beyond (ranges text) := by
  intro range member
  rw [ranges, wordsOf_ofList spelled] at member
  obtain ⟨word, listed, rfl⟩ := List.mem_map.mp member
  exact of_decide_eq_true (List.all_eq_true.mp all word listed)

theorem beyond_row {κ : Type} {key : κ} {text : String} {letters : List Char}
    {rest : List (κ × List Range)} (spelled : text = String.ofList letters)
    (all : (wordsIn letters).all (fun word =>
      0x80 ≤ (Range.ofWord word).first) = true)
    (others : ∀ row ∈ rest, Beyond row.2) :
    ∀ row ∈ (key, ranges text) :: rest, Beyond row.2 :=
  List.forall_mem_cons.mpr ⟨beyond_ranges spelled all, others⟩

theorem among_eq_false {c : Char} (ascii : c.toNat < 0x80)
    {ranges : List Range} (beyond : Beyond ranges) :
    among ranges c = false := by
  rw [among, List.any_eq_false]
  intro range member
  have first := beyond range member
  rw [Range.contains, Bool.and_eq_true, decide_eq_true_iff]
  omega

set_option maxRecDepth 100000 in
theorem beyond_nonspacingMarks : Beyond nonspacingMarks := by
  refine beyond_ranges rfl ?_
  decide +kernel

set_option maxRecDepth 100000 in
theorem beyond_spacingMarks : Beyond spacingMarks := by
  refine beyond_ranges rfl ?_
  decide +kernel

theorem isMark_ascii {c : Char} (ascii : c.toNat < 0x80) : isMark c = false := by
  rw [isMark, isNonspacingMark, among_eq_false ascii beyond_nonspacingMarks,
    among_eq_false ascii beyond_spacingMarks]
  rfl

set_option maxRecDepth 100000 in
theorem beyond_combiningClasses : ∀ row ∈ combiningClasses, Beyond row.2 := by
  unfold combiningClasses
  repeat
    refine beyond_row rfl ?_ ?_
    · decide +kernel
  exact nofun

theorem combiningClass_ascii {c : Char} (ascii : c.toNat < 0x80) :
    combiningClass c = 0 := by
  have absent : (combiningClasses.find? fun row => among row.2 c) = none := by
    rw [List.find?_eq_none]
    intro row member
    rw [among_eq_false ascii (beyond_combiningClasses row member)]
    exact Bool.false_ne_true
  unfold combiningClass
  rw [absent]

set_option maxRecDepth 100000 in
theorem beyond_composites :
    ∀ composite ∈ composites, 0x80 ≤ composite.mark.toNat := by
  have all : composites.all (0x80 ≤ ·.mark.toNat) = true := by
    unfold composites
    rw [wordsOf_ofList rfl]
    decide +kernel
  exact fun composite member =>
    of_decide_eq_true (List.all_eq_true.mp all composite member)

theorem join?_ascii {base mark : Char} (ascii : mark.toNat < 0x80) :
    join? base mark = none := by
  have apart : Syllable.join? base mark = none := by
    have vowel : Syllable.isVowel mark = false := by
      rw [Syllable.isVowel, Bool.and_eq_false_iff, decide_eq_false_iff_not]
      exact .inl (by unfold Syllable.firstVowel; omega)
    have final : Syllable.isFinal mark = false := by
      rw [Syllable.isFinal, Bool.and_eq_false_iff, decide_eq_false_iff_not]
      exact .inl (by unfold Syllable.noFinal; omega)
    simp [Syllable.join?, vowel, final]
  have absent : (composites.find? fun composite =>
      composite.base == base && composite.mark == mark) = none := by
    rw [List.find?_eq_none]
    intro composite member same
    have beyond := beyond_composites composite member
    rw [Bool.and_eq_true, beq_iff_eq, beq_iff_eq] at same
    rw [same.2] at beyond
    omega
  rw [join?, apart, absent]
  rfl

theorem decomposed_ascii {text : List Char}
    (ascii : ∀ c ∈ text, c.toNat < 0x80) : decomposed text = text := by
  rw [decomposed]
  induction text with
  | nil => rfl
  | cons c rest induction =>
      have first := ascii c List.mem_cons_self
      rw [List.flatMap_cons, decompose, if_pos first, List.singleton_append,
        orderMarks, if_pos (combiningClass_ascii first),
        induction fun other among => ascii other (List.mem_cons_of_mem _ among)]

theorem compose_ascii {base : Char} {text : List Char}
    (ascii : ∀ c ∈ text, c.toNat < 0x80) :
    compose base [] text = base :: text := by
  induction text generalizing base with
  | nil => rfl
  | cons c rest induction =>
      have first := ascii c List.mem_cons_self
      rw [compose, join?_ascii first, ite_self]
      simp only
      rw [if_pos (combiningClass_ascii first),
        induction fun other among => ascii other (List.mem_cons_of_mem _ among)]
      rfl

theorem composed_ascii {text : List Char} (ascii : ∀ c ∈ text, c.toNat < 0x80) :
    composed text = text := by
  rw [composed, decomposed_ascii ascii]
  cases text with
  | nil => rfl
  | cons base rest =>
      exact compose_ascii fun other among =>
        ascii other (List.mem_cons_of_mem _ among)

namespace WritingDirection

/-- The directions of letters that are written from right to left. -/
def leftwards : List WritingDirection :=
  [rightToLeft, arabicLetter, arabicNumber]

set_option maxRecDepth 100000 in
theorem beyond_leftwards :
    ∀ row ∈ table, row.1 ∈ leftwards → Beyond row.2 := by
  unfold table
  refine List.forall_mem_cons.mpr ⟨fun listed => absurd listed (by decide), ?_⟩
  iterate 3
    refine List.forall_mem_cons.mpr ⟨fun _ => ?_, ?_⟩
    · dsimp only
      refine beyond_ranges rfl ?_
      decide +kernel
  repeat
    refine List.forall_mem_cons.mpr
      ⟨fun listed => absurd listed (by decide), ?_⟩
  exact nofun

theorem of_ascii {c : Char} (ascii : c.toNat < 0x80) : of c ∉ leftwards := by
  rw [of]
  cases found : table.find? fun row => among row.2 c with
  | none =>
      dsimp only
      split <;> decide
  | some row =>
      intro listed
      have holds := List.find?_some found
      rw [among_eq_false ascii (beyond_leftwards row
        (List.mem_of_find?_eq_some found) listed)] at holds
      cases holds

end WritingDirection

end Orchestration.Unicode
