import Mathlib.Computability.Language
import Orchestration.Proofs.Text.Split
import Orchestration.Task.Statement

namespace Orchestration

open scoped Computability
open Text

/-! Which statements change something, told in three ways: by a pattern that the
text begins with, by what stands around a word, and by the words of a line. -/

namespace Text

/-- The place where a piece may begin: nothing stands before it, or a separator
does. -/
def IsEdge (separator : Char) (before : List Char) : Prop :=
  before = [] ∨ [separator] <:+ before

section Pieces

variable {separator : Char} {text piece : List Char}

theorem mem_splitOn_of_isEdge {before : List Char}
    (edge : IsEdge separator before) (whole : separator ∉ piece) :
    piece ∈ (before ++ piece).splitOn separator := by
  rcases edge with rfl | ⟨lead, rfl⟩
  · simp [List.splitOn_eq_singleton whole]
  · rw [List.append_assoc, List.singleton_append,
      List.splitOn_append_cons_self, List.splitOn_eq_singleton whole]
    exact List.mem_append_right _ List.mem_cons_self

theorem exists_around (member : piece ∈ (text.splitOn separator).dropLast) :
    separator ∉ piece ∧ ∃ before after,
      text = before ++ piece ++ separator :: after ∧
        IsEdge separator before := by
  induction size : text.length using Nat.strong_induction_on
    generalizing text with | h length shorter =>
  by_cases split : separator ∈ text
  · obtain ⟨first, rest, rfl, whole⟩ := List.eq_append_cons_of_mem split
    rw [List.splitOn_append_cons_self_of_not_mem whole,
      List.dropLast_cons_of_ne_nil (List.splitOn_ne_nil _ _)] at member
    rcases List.mem_cons.mp member with rfl | inRest
    · exact ⟨whole, [], rest, rfl, .inl rfl⟩
    · have less : rest.length < length := by
        rw [← size, List.length_append, List.length_cons]
        omega
      obtain ⟨clean, before, after, rfl, edge⟩ := shorter _ less inRest rfl
      refine ⟨clean, first ++ separator :: before, after, by simp, .inr ?_⟩
      rcases edge with rfl | ⟨lead, rfl⟩
      · exact ⟨first, rfl⟩
      · exact ⟨first ++ separator :: lead, by simp⟩
  · rw [List.splitOn_eq_singleton split] at member
    cases member

theorem mem_dropLast_splitOn_iff :
    piece ∈ (text.splitOn separator).dropLast ↔
      separator ∉ piece ∧ ∃ before after,
        text = before ++ piece ++ separator :: after ∧
          IsEdge separator before := by
  refine ⟨exists_around, ?_⟩
  rintro ⟨whole, before, after, rfl, edge⟩
  rw [List.splitOn_append_cons_self,
    List.dropLast_append_of_ne_nil (List.splitOn_ne_nil _ _)]
  exact List.mem_append_left _ (mem_splitOn_of_isEdge edge whole)

end Pieces

theorem toNat_lowerAscii (c : Char) :
    (lowerAscii c).toNat =
      if 65 ≤ c.toNat ∧ c.toNat ≤ 90 then c.toNat + 32 else c.toNat := by
  have capital : (c.val ≥ 'A'.val ∧ c.val ≤ 'Z'.val) ↔
      65 ≤ c.toNat ∧ c.toNat ≤ 90 := by
    simp only [ge_iff_le, UInt32.le_iff_toNat_le]
    rfl
  delta lowerAscii Char.toLower
  simp only [capital]
  split
  · rename_i range
    change (c.val + ('a'.val - 'A'.val)).toNat = _
    rw [UInt32.toNat_add]
    change (c.toNat + 32) % 2 ^ 32 = _
    omega
  · rfl

theorem toNat_upperAscii (c : Char) :
    (upperAscii c).toNat =
      if 97 ≤ c.toNat ∧ c.toNat ≤ 122 then c.toNat - 32 else c.toNat := by
  have small : ('a'.val ≤ c.val ∧ c.val ≤ 'z'.val) ↔
      97 ≤ c.toNat ∧ c.toNat ≤ 122 := by
    simp only [UInt32.le_iff_toNat_le]
    rfl
  delta upperAscii Char.toUpper
  simp only [small]
  split
  · rename_i range
    change (c.val + ('A'.val - 'a'.val)).toNat = _
    have shift : 'A'.val - 'a'.val = 4294967264 := by decide
    have bound := c.val.toNat_lt
    rw [shift, UInt32.toNat_add]
    change (c.toNat + 4294967264) % 4294967296 = _
    omega
  · rfl

theorem lowerAscii_eq_iff {c letter : Char} (small : letter.isLower) :
    lowerAscii c = letter ↔ c = letter ∨ c = upperAscii letter := by
  have low : 97 ≤ letter.toNat ∧ letter.toNat ≤ 122 := by
    delta Char.isLower at small
    simpa [UInt32.le_iff_toNat_le] using small
  rw [← Char.toNat_inj, ← Char.toNat_inj, ← Char.toNat_inj, toNat_lowerAscii,
    toNat_upperAscii, if_pos low]
  split <;> omega

end Text

namespace StatementType

/-- A small letter can be capital instead, and the letter s can also be long. -/
def spellings (letter : Char) : List Char :=
  [letter, upperAscii letter] ++ if letter = 's' then ['ſ'] else []

def keywords : List String :=
  ["insert", "delete", "drop", "update", "truncate", "alter", "create"]

/-- Some keyword, each of its letters in one of its spellings. -/
def IsSpelledKeyword (word : List Char) : Prop :=
  ∃ keyword ∈ keywords,
    List.Forall₂ (fun c letter => c ∈ spellings letter) word keyword.toList

theorem foldLetter_eq_iff {c letter : Char} (small : letter.isLower) :
    foldLetter c = letter ↔ c ∈ spellings letter := by
  have short : letter ≠ 'ſ' := by rintro rfl; revert small; decide
  have capital : upperAscii letter ≠ 'ſ' := by
    intro long
    have code := congrArg Char.toNat long
    rw [toNat_upperAscii] at code
    split at code
    · have : 'ſ'.toNat = 383 := rfl
      omega
    · exact short (Char.toNat_inj.mp code)
  by_cases long : c = 'ſ'
  · subst long
    by_cases hiss : letter = 's'
    · simp [foldLetter, spellings, hiss]
    · simp [foldLetter, spellings, hiss, short.symm, capital.symm,
        Ne.symm hiss]
  · rw [foldLetter, if_neg long, lowerAscii_eq_iff small]
    by_cases hiss : letter = 's' <;> simp [spellings, hiss, long]

theorem mem_changeWords_iff {word : String} :
    word ∈ changeWords ↔ word ∈ keywords := Iff.rfl

theorem small_of_mem_keywords {keyword : String} {letter : Char}
    (known : keyword ∈ keywords) (member : letter ∈ keyword.toList) :
    letter.isLower := by
  have all : (keywords.all fun keyword =>
      keyword.toList.all Char.isLower) = true := by decide
  exact List.all_eq_true.mp (List.all_eq_true.mp all keyword known) letter
    member

theorem isChangeWord_iff {word : List Char} :
    isChangeWord word ↔ IsSpelledKeyword word := by
  rw [isChangeWord, List.any_eq_true]
  refine exists_congr fun keyword => ?_
  rw [mem_changeWords_iff]
  refine and_congr_right fun known => ?_
  rw [beq_iff_eq, eq_comm, ← List.forall₂_eq_eq_eq, List.forall₂_map_left_iff]
  have small : ∀ letter ∈ keyword.toList, letter.isLower :=
    fun _ => small_of_mem_keywords known
  generalize keyword.toList = letters at small
  induction letters generalizing word with
  | nil => simp
  | cons letter letters induction =>
      cases word with
      | nil => simp
      | cons c word =>
          simp only [List.forall₂_cons]
          exact and_congr
            (foldLetter_eq_iff (small letter List.mem_cons_self))
            (induction fun other member => small other (.tail _ member))

def anySpelling (letter : Char) : Language Char :=
  {text | ∃ c ∈ spellings letter, text = [c]}

def anyCase (word : String) : Language Char :=
  (word.toList.map anySpelling).prod

def anyInLine : Language Char := {text | ∃ c, c ≠ '\n' ∧ text = [c]}

def upToSpace : Language Char := anyInLine∗ * {[' ']}

/-- A statement that changes something begins with these texts: if anything
precedes the keyword in its line, a space does, and a space follows it. -/
def changePattern : Language Char :=
  (1 + upToSpace) * (keywords.map anyCase).sum * {[' ']}

theorem mem_anyCase_iff {word : String} {text : List Char} :
    text ∈ anyCase word ↔
      List.Forall₂ (fun c letter => c ∈ spellings letter) text word.toList := by
  rw [anyCase]
  generalize word.toList = letters
  induction letters generalizing text with
  | nil => simp [Language.mem_one]
  | cons letter letters induction =>
      rw [List.map_cons, List.prod_cons, Language.mem_mul,
        List.forall₂_cons_right_iff]
      constructor
      · rintro ⟨_, ⟨c, known, rfl⟩, rest, spelled, rfl⟩
        exact ⟨c, rest, known, induction.mp spelled, rfl⟩
      · rintro ⟨c, rest, known, spelled, rfl⟩
        exact ⟨[c], ⟨c, known, rfl⟩, rest, induction.mpr spelled, rfl⟩

theorem mem_sum_anyCase_iff {text : List Char} :
    text ∈ (keywords.map anyCase).sum ↔ IsSpelledKeyword text := by
  rw [IsSpelledKeyword]
  generalize keywords = words
  induction words with
  | nil => simp [Language.notMem_zero]
  | cons keyword words induction =>
      rw [List.map_cons, List.sum_cons, Language.mem_add, induction,
        mem_anyCase_iff]
      simp

theorem mem_upToSpace_iff {text : List Char} :
    text ∈ upToSpace ↔ '\n' ∉ text ∧ [' '] <:+ text := by
  rw [upToSpace, Language.mem_mul]
  constructor
  · rintro ⟨lead, inLine, _, rfl, rfl⟩
    obtain ⟨letters, rfl, each⟩ := Language.mem_kstar.mp inLine
    refine ⟨?_, List.suffix_append _ _⟩
    rw [List.mem_append, List.mem_flatten]
    rintro (⟨letter, member, feed⟩ | feed)
    · obtain ⟨c, other, rfl⟩ := each letter member
      exact other (List.mem_singleton.mp feed).symm
    · cases List.mem_singleton.mp feed
  · rintro ⟨inLine, lead, rfl⟩
    refine ⟨lead, Language.mem_kstar.mpr ⟨lead.map fun c => [c], ?_, ?_⟩,
      [' '], rfl, rfl⟩
    · rw [← List.flatMap_def, List.flatMap_singleton']
    · rintro _ member
      obtain ⟨c, known, rfl⟩ := List.mem_map.mp member
      refine ⟨c, ?_, rfl⟩
      rintro rfl
      exact inLine (List.mem_append_left _ known)

theorem mem_changePattern_iff {text : List Char} :
    text ∈ changePattern ↔
      ∃ before word, text = before ++ word ++ [' '] ∧
        '\n' ∉ before ∧ IsEdge ' ' before ∧ IsSpelledKeyword word := by
  simp only [changePattern, Language.mem_mul, Language.mem_add,
    Language.mem_one, mem_upToSpace_iff, mem_sum_anyCase_iff]
  constructor
  · rintro ⟨_, ⟨before, lead, word, spelled, rfl⟩, _, rfl, rfl⟩
    refine ⟨before, word, rfl, ?_, lead.imp_right And.right, spelled⟩
    rcases lead with rfl | ⟨inLine, _⟩
    · exact List.not_mem_nil
    · exact inLine
  · rintro ⟨before, word, rfl, inLine, edge, spelled⟩
    exact ⟨_, ⟨before, edge.imp_right (⟨inLine, ·⟩), word, spelled, rfl⟩,
      _, rfl, rfl⟩

/-- What stands before the first line feed, blank characters at the start left
out. -/
def firstLine (text : String) : List Char :=
  (trimStart text.toList).takeWhile (· ≠ '\n')

theorem small_of_mem {word : List Char} {c : Char}
    (spelled : IsSpelledKeyword word) (member : c ∈ word) :
    (foldLetter c).isLower := by
  obtain ⟨keyword, known, same⟩ :=
    List.any_eq_true.mp (isChangeWord_iff.mpr spelled)
  refine small_of_mem_keywords (mem_changeWords_iff.mp known) ?_
  rw [eq_of_beq same]
  exact List.mem_map_of_mem member

section Detection

variable {text : String}

/-- A changing statement has a keyword in its first line that is not the last
word there. -/
theorem detect_eq_change_iff_word :
    detect text = change ↔
      ∃ word ∈ ((firstLine text).splitOn ' ').dropLast,
        IsSpelledKeyword word := by
  have tested : detect text = change ↔
      (pieces ' ' (firstLine text)).dropLast.any isChangeWord := by
    change (if _ then change else select) = change ↔ _
    split <;> simp_all [firstLine]
  simp only [tested, pieces_eq_splitOn, List.any_eq_true, isChangeWord_iff]

theorem detect_eq_change_iff_around :
    detect text = change ↔
      ∃ before word after, firstLine text = before ++ word ++ ' ' :: after ∧
        IsEdge ' ' before ∧ IsSpelledKeyword word := by
  rw [detect_eq_change_iff_word]
  constructor
  · rintro ⟨word, member, spelled⟩
    obtain ⟨-, before, after, line, edge⟩ := mem_dropLast_splitOn_iff.mp member
    exact ⟨before, word, after, line, edge, spelled⟩
  · rintro ⟨before, word, after, line, edge, spelled⟩
    have whole : ' ' ∉ word := fun space =>
      absurd (small_of_mem spelled space) (by decide)
    exact ⟨word, mem_dropLast_splitOn_iff.mpr
      ⟨whole, before, after, line, edge⟩, spelled⟩

theorem detect_eq_change_iff_pattern :
    detect text = change ↔
      ∃ lead ∈ changePattern, lead <+: trimStart text.toList := by
  rw [detect_eq_change_iff_around]
  constructor
  · rintro ⟨before, word, after, line, edge, spelled⟩
    have inLine : '\n' ∉ before := by
      intro feed
      have kept : '\n' ∈ firstLine text := by simp [line, feed]
      simpa using List.mem_takeWhile_imp kept
    refine ⟨_, mem_changePattern_iff.mpr
      ⟨before, word, rfl, inLine, edge, spelled⟩, ?_⟩
    refine .trans ⟨after, ?_⟩ (List.takeWhile_prefix (· ≠ '\n'))
    rw [List.append_assoc, List.singleton_append, ← line, firstLine]
  · rintro ⟨lead, matched, after, start⟩
    obtain ⟨before, word, rfl, inLine, edge, spelled⟩ :=
      mem_changePattern_iff.mp matched
    have noFeed : ∀ c ∈ before ++ word ++ [' '], (c ≠ '\n' : Bool) := by
      intro c member
      rw [decide_eq_true_iff]
      rintro rfl
      rcases List.mem_append.mp member with inBefore | space
      · rcases List.mem_append.mp inBefore with feed | feed
        · exact inLine feed
        · exact absurd (small_of_mem spelled feed) (by decide)
      · cases List.mem_singleton.mp space
    refine ⟨before, word, after.takeWhile (· ≠ '\n'), ?_, edge, spelled⟩
    rw [firstLine, ← start, List.takeWhile_append_of_pos noFeed,
      List.append_assoc, List.singleton_append]

theorem detect_congr {other : String}
    (same : firstLine text = firstLine other) : detect text = detect other := by
  have alike : detect text = change ↔ detect other = change := by
    rw [detect_eq_change_iff_word, same, detect_eq_change_iff_word]
  cases left : detect text <;> cases right : detect other <;> simp_all

theorem firstLine_blank_append {blank : List Char}
    (each : ∀ c ∈ blank, isBlank c) :
    firstLine (.ofList (blank ++ text.toList)) = firstLine text := by
  rw [firstLine, String.toList_ofList, trimStart,
    List.dropWhile_append_of_pos each, firstLine, trimStart]

theorem firstLine_append_feed (visible : firstLine text ≠ [])
    (rest : List Char) :
    firstLine (.ofList (firstLine text ++ '\n' :: rest)) = firstLine text := by
  obtain ⟨c, more, line⟩ := List.exists_cons_of_ne_nil visible
  have noFeed : ∀ d ∈ firstLine text, (d ≠ '\n' : Bool) :=
    fun _ => List.mem_takeWhile_imp
  have shown : isBlank c = false := by
    have first : (trimStart text.toList).head? = some c := by
      obtain ⟨after, start⟩ :=
        List.takeWhile_prefix (l := trimStart text.toList) (· ≠ '\n')
      rw [← start, ← firstLine, line]
      rfl
    have start := List.head?_dropWhile_not isBlank text.toList
    rwa [← trimStart, first] at start
  have kept : trimStart (firstLine text ++ '\n' :: rest) =
      firstLine text ++ '\n' :: rest := by
    rw [line, List.cons_append, trimStart,
      List.dropWhile_cons_of_neg (by simp [shown])]
  rw [firstLine, String.toList_ofList, kept,
    List.takeWhile_append_of_pos noFeed, List.takeWhile_cons_of_neg (by simp),
    List.append_nil]

end Detection

/-- A text is found to change something if the pattern matches at its start,
blank characters left out. Equally, some keyword in its first line follows
nothing or a space and precedes a space; or it is a word of that line, but not
the last one. Neither blank characters before the line nor what follows it
count. -/
theorem detection (text : String) :
    (detect text = change ↔
        ∃ lead ∈ changePattern, lead <+: trimStart text.toList) ∧
      (detect text = change ↔
        ∃ before word after,
          firstLine text = before ++ word ++ ' ' :: after ∧
            IsEdge ' ' before ∧ IsSpelledKeyword word) ∧
      (detect text = change ↔
        ∃ word ∈ ((firstLine text).splitOn ' ').dropLast,
          IsSpelledKeyword word) ∧
      (∀ blank : List Char, (∀ c ∈ blank, isBlank c) →
        detect (.ofList (blank ++ text.toList)) = detect text) ∧
      ∀ rest : List Char, firstLine text ≠ [] →
        detect (.ofList (firstLine text ++ '\n' :: rest)) = detect text :=
  ⟨detect_eq_change_iff_pattern, detect_eq_change_iff_around,
    detect_eq_change_iff_word,
    fun _ each => detect_congr (firstLine_blank_append each),
    fun rest visible => detect_congr (firstLine_append_feed visible rest)⟩

theorem detection_of_insertion :
    detect (.ofList (['\t', '\n'] ++ "x INſERT  y\ndrop z".toList)) = change ∧
      detect (.ofList ("x INſERT  y".toList ++ '\n' :: "z".toList)) = change := by
  obtain ⟨-, around, -, blank, rest⟩ := detection "x INſERT  y\ndrop z"
  have found : detect "x INſERT  y\ndrop z" = change :=
    around.mpr ⟨['x', ' '], "INſERT".toList, [' ', 'y'], by decide,
      .inr ⟨['x'], rfl⟩, "insert", List.mem_cons_self, by decide⟩
  have blanks : ['\t', '\n'].all isBlank := by decide
  exact ⟨(blank ['\t', '\n'] (List.all_eq_true.mp blanks)).trans found,
    (rest "z".toList (by decide +kernel)).trans found⟩

end StatementType

end Orchestration
