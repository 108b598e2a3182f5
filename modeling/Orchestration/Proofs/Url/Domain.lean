import Mathlib.Data.List.InsertIdx
import Orchestration.Url.Domain
import Orchestration.Proofs.Except
import Orchestration.Proofs.Text.Split
import Orchestration.Proofs.Unicode.Ascii

namespace Orchestration.Url

open Text

namespace Domain

/-! The names of hosts in ASCII. They have no denied characters, whatever they
were encoded from. -/

def Allowed (text : List Char) : Prop := ∀ c ∈ text, isDenied c = false

instance : DecidablePred Allowed := fun text =>
  text.decidableBAll fun c => isDenied c = false

section Allowed

variable {first second whole : List Char} {c : Char}

theorem allowed_append (before : Allowed first) (after : Allowed second) :
    Allowed (first ++ second) :=
  List.forall_mem_append.mpr ⟨before, after⟩

theorem Allowed.of_subset (allowed : Allowed whole)
    (within : first ⊆ whole) : Allowed first :=
  fun c member => allowed c (within member)

/-- The denied characters that are printed. -/
def marks : List Char :=
  ['%', '#', '/', ':', '<', '>', '?', '@', '[', '\\', ']', '^', '|']

theorem isDenied_eq_false_iff :
    isDenied c = false ↔
      (0x20 < c.toNat ∧ c.toNat ≠ 0x7f) ∧ c ∉ marks := by
  rw [isDenied, Bool.or_eq_false_iff, Bool.or_eq_false_iff,
    decide_eq_false_iff_not, decide_eq_false_iff_not, List.contains_eq_mem,
    decide_eq_false_iff_not, Nat.not_le]
  rfl

theorem allowed_beyond (beyond : 0x80 ≤ c.toNat) : isDenied c = false := by
  have ascii : marks.all (·.toNat < 0x80) = true := by decide
  exact isDenied_eq_false_iff.mpr ⟨⟨by omega, by omega⟩, fun member =>
    absurd (of_decide_eq_true (List.all_eq_true.mp ascii c member))
      (Nat.not_lt.mpr beyond)⟩

end Allowed

end Domain

namespace Punycode

open Domain (Allowed isDenied)

theorem allowed_digit : ∀ value < base, isDenied (digit value) = false := by
  decide

theorem allowed_number (bias value k : Nat) :
    Allowed (number bias value k) := by
  have few (k : Nat) : threshold bias k ≤ 26 := Nat.min_le_left _ _
  have left (k rest : Nat) :
      threshold bias k + rest % (base - threshold bias k) < base := by
    have room := few k
    have part := Nat.mod_lt rest (y := base - threshold bias k)
      (by unfold base; omega)
    unfold base at *
    omega
  fun_induction number bias value k with
  | case1 value k threshold small =>
      exact List.forall_mem_singleton.mpr
        (allowed_digit value (lt_of_lt_of_le small ((few k).trans (by decide))))
  | case2 value k threshold large rest head less induction =>
      exact List.forall_mem_cons.mpr ⟨allowed_digit _ (left k _), induction⟩
  | case3 value k threshold large rest head =>
      exact List.forall_mem_singleton.mpr (allowed_digit _ (left k _))

theorem allowed_place {plain code : Nat} {state : State} {c : Char}
    (before : Allowed state.output) :
    Allowed (place plain code state c).output := by
  rw [place]
  split
  next => exact before
  next =>
    split
    next => exact Domain.allowed_append before (allowed_number _ _ _)
    next => exact before

theorem allowed_places {text : List Char} {plain next : Nat} {codes : List Nat}
    {state : State} (before : Allowed state.output) :
    Allowed (places text plain codes next state) := by
  induction codes generalizing next state with
  | nil => exact before
  | cons code rest induction =>
      have placed (letters : List Char) {state : State}
          (before : Allowed state.output) :
          Allowed (letters.foldl (place plain code) state).output := by
        induction letters generalizing state with
        | nil => exact before
        | cons c more further => exact further (allowed_place before)
      exact induction (placed text before)

theorem allowed_encode {text : List Char} (allowed : Allowed text) :
    Allowed (encode text) := by
  have plain : Allowed (text.filter isPlain) :=
    allowed.of_subset (List.filter_subset_self text)
  refine allowed_places ?_
  dsimp only
  split
  next => exact nofun
  next => exact Domain.allowed_append plain (by decide)

theorem allowed_insert {bias code place : Nat} {letters text label : List Char}
    (beyond : 0x80 ≤ code) (before : Allowed letters)
    (inserted : insert bias code place letters text = some label) :
    Allowed label := by
  fun_induction insert bias code place letters text with
  | case1 =>
      cases inserted
      exact before
  | case2 => cases inserted
  | case3 bias code place letters text more number rest found points next here
      valid induction =>
      have further : 0x80 ≤ next := beyond.trans (Nat.le_add_right _ _)
      refine induction further ?_ inserted
      intro c member
      rcases List.eq_or_mem_of_mem_insertIdx member with rfl | member
      · have coded : (Char.ofNat next).toNat = next := by
          rw [Char.ofNat, dif_pos valid]
          rfl
        exact Domain.allowed_beyond (further.trans_eq coded.symm)
      · exact before c member
  | case4 => cases inserted

theorem cutPlain_subset (text : List Char) : (cutPlain text).1 ⊆ text := by
  unfold cutPlain
  dsimp only
  split
  next => exact List.take_subset _ _
  next => exact List.nil_subset text

theorem allowed_decode {code label : List Char} (allowed : Allowed code)
    (decoded : decode? code = some label) : Allowed label := by
  exact allowed_insert (le_refl 0x80)
    (allowed.of_subset (cutPlain_subset code)) decoded

end Punycode

namespace Domain

section Parts

variable {text label name domain : List Char}

theorem allowed_label (allowed : Allowed text)
    (found : label? text = some label) : Allowed label := by
  rw [label?] at found
  split at found
  next =>
    rw [decodeLabel?] at found
    split at found
    next =>
      obtain ⟨decoded, -⟩ := Option.filter_eq_some_iff.mp found
      exact Punycode.allowed_decode
        (allowed.of_subset (List.drop_subset _ _)) decoded
    next => cases found
  next =>
    cases found
    exact allowed

theorem allowed_labelText (allowed : Allowed label) :
    Allowed (labelText label) := by
  rw [labelText]
  split
  next => exact allowed
  next => exact allowed_append (by decide) (Punycode.allowed_encode allowed)

theorem allowed_fold (folded : fold? text = some name) : Allowed name := by
  obtain ⟨letters, -, folded⟩ := Option.bind_eq_some_iff.mp folded
  dsimp only at folded
  split at folded
  next => cases folded
  next clean =>
    cases folded
    exact fun c member => Bool.eq_false_iff.mpr fun denied =>
      clean (List.any_eq_true.mpr ⟨c, member, denied⟩)

theorem allowed_ascii (found : ascii? text = some domain) : Allowed domain := by
  obtain ⟨labels, named, found⟩ := Option.bind_eq_some_iff.mp found
  obtain ⟨name, folded, labelled⟩ := Option.bind_eq_some_iff.mp named
  split at found
  next =>
    cases found
    intro c member
    obtain rfl | ⟨part, listed, within⟩ := mem_intercalate member
    · decide
    obtain ⟨label, among, rfl⟩ := List.mem_map.mp listed
    obtain ⟨piece, cut, made⟩ :=
      exists_of_forall₂ (mapM_eq_some_iff.mp labelled).flip among
    rw [pieces_eq_splitOn] at cut
    have allowed : Allowed piece := (allowed_fold folded).of_subset
      fun d present => (mem_splitOnP cut d present).1
    exact allowed_labelText (allowed_label allowed made) c within
  next => cases found

end Parts

structure Plain (name : List Char) : Prop where
  ascii : ∀ c ∈ name, c.toNat < 0x80
  allowed : Allowed name
  folded : ∀ c ∈ name, lowerAscii c = c
  unmarked : ∀ label ∈ name.splitOn '.', ¬ mark <+: label

theorem joinersFit_ascii {before label : List Char}
    (ascii : ∀ c ∈ label, c.toNat < 0x80) : joinersFit before label = true := by
  induction label generalizing before with
  | nil => rfl
  | cons c rest induction =>
      have first := ascii c List.mem_cons_self
      have other : c ≠ nonJoiner ∧ c ≠ joiner := by
        constructor
        all_goals
          rintro rfl
          exact absurd first (by decide)
      rw [joinersFit, if_neg other.1, if_neg other.2, Bool.true_and]
      exact induction fun d among => ascii d (List.mem_cons_of_mem _ among)

theorem isLabel_ascii {label : List Char}
    (ascii : ∀ c ∈ label, c.toNat < 0x80) : isLabel label = true := by
  have whole : label.all isAscii = true :=
    List.all_eq_true.mpr fun c member => decide_eq_true (ascii c member)
  have head : label.head?.any Unicode.isMark = false := by
    cases label with
    | nil => rfl
    | cons c rest =>
        rw [List.head?_cons, Option.any_some]
        exact Unicode.isMark_ascii (ascii c List.mem_cons_self)
  rw [isLabel, head, joinersFit_ascii ascii, whole]
  rfl

theorem fromTheRight_ascii {c : Char} (ascii : c.toNat < 0x80) :
    fromTheRight (Unicode.WritingDirection.of c) = false := by
  have never := Unicode.WritingDirection.of_ascii ascii
  generalize Unicode.WritingDirection.of c = direction at never
  cases direction <;> first | rfl | exact absurd (by decide) never

theorem directionsFit_ascii {labels : List (List Char)}
    (ascii : ∀ label ∈ labels, ∀ c ∈ label, c.toNat < 0x80) :
    directionsFit labels = true := by
  have never : (labels.any fun label => label.any fun c =>
      fromTheRight (Unicode.WritingDirection.of c)) = false := by
    rw [List.any_eq_false]
    intro label among
    rw [Bool.not_eq_true, List.any_eq_false]
    intro c member
    rw [fromTheRight_ascii (ascii label among c member)]
    exact Bool.false_ne_true
  unfold directionsFit
  rw [never, Bool.not_false, Bool.or_true]

namespace Plain

variable {name : List Char}

theorem fold?_eq (plain : Plain name) : fold? name = some name := by
  have each : name.mapM Unicode.folded? = some (name.map ([·])) := by
    rw [mapM_eq_some_iff, List.forall₂_map_right_iff, List.forall₂_same]
    intro c member
    rw [Unicode.folded?, if_pos (plain.ascii c member), plain.folded c member]
  have solid : name.any isDenied = false := by
    rw [List.any_eq_false]
    exact fun c member => Bool.eq_false_iff.mp (plain.allowed c member)
  have joined : (name.map ([·])).flatten = name := by
    rw [← List.flatMap_def, List.flatMap_singleton']
  rw [fold?, each, Option.bind_some, joined,
    Unicode.composed_ascii plain.ascii]
  dsimp only
  rw [solid]
  rfl

theorem ascii?_eq (plain : Plain name) : ascii? name = some name := by
  have ascii : ∀ label ∈ name.splitOn '.', ∀ c ∈ label, c.toNat < 0x80 :=
    fun label listed c member => plain.ascii c (mem_splitOnP listed c member).1
  have labelled : (pieces '.' name).mapM label? = some (name.splitOn '.') := by
    rw [pieces_eq_splitOn, mapM_eq_some_iff, List.forall₂_same]
    intro label listed
    rw [label?, if_neg]
    exact mt List.isPrefixOf_iff_prefix.mp (plain.unmarked label listed)
  have valid : (name.splitOn '.').all isLabel = true :=
    List.all_eq_true.mpr fun label listed => isLabel_ascii (ascii label listed)
  have written : (name.splitOn '.').map labelText = name.splitOn '.' := by
    refine (List.map_congr_left fun label listed => ?_).trans (List.map_id _)
    have whole : label.all isAscii = true :=
      List.all_eq_true.mpr fun c member =>
        decide_eq_true (ascii label listed c member)
    rw [labelText, if_pos whole]
    rfl
  rw [ascii?, plain.fold?_eq, Option.bind_some, labelled, Option.bind_some,
    valid, directionsFit_ascii ascii, written, List.intercalate_splitOn]
  rfl

end Plain

end Domain

end Orchestration.Url
