import Mathlib.Data.List.TakeWhile
import Orchestration.Text.Basic

namespace Orchestration.Text

theorem pieces_eq_splitOn (separator : Char) (text : List Char) :
    pieces separator text = text.splitOn separator := by
  induction text with
  | nil => rfl
  | cons c rest induction =>
      rw [pieces, induction, List.splitOn, List.splitOn,
        List.splitOnP_cons_eq_if_modifyHead]
      by_cases same : c = separator
      · simp [same]
      · obtain ⟨piece, more, split⟩ :=
          List.exists_cons_of_ne_nil (List.splitOnP_ne_nil (· == separator) rest)
        simp [same, split]

theorem mem_splitOnP {separates : Char → Bool} {text piece : List Char}
    (member : piece ∈ text.splitOnP separates) :
    ∀ c ∈ piece, c ∈ text ∧ separates c = false := by
  induction text generalizing piece with
  | nil =>
      rw [List.splitOnP_nil, List.mem_singleton] at member
      simp [member]
  | cons c rest induction =>
      have further {other : List Char}
          (within : ∀ d ∈ other, d ∈ rest ∧ separates d = false) :
          ∀ d ∈ other, d ∈ c :: rest ∧ separates d = false :=
        fun d among => ⟨List.mem_cons_of_mem c (within d among).1,
          (within d among).2⟩
      rw [List.splitOnP_cons_eq_if_modifyHead] at member
      split at member
      next =>
        rcases List.mem_cons.mp member with rfl | member
        · simp
        · exact further (induction member)
      next solid =>
        obtain ⟨head, tail, pieces⟩ :=
          List.exists_cons_of_ne_nil (List.splitOnP_ne_nil separates rest)
        rw [pieces] at induction
        rw [pieces, List.modifyHead_cons] at member
        rcases List.mem_cons.mp member with rfl | member
        · exact List.forall_mem_cons.mpr
            ⟨⟨List.mem_cons_self, Bool.eq_false_iff.mpr solid⟩,
              further (induction List.mem_cons_self)⟩
        · exact further (induction (List.mem_cons_of_mem head member))

theorem pieces_eq_iff {separator : Char} {text : List Char}
    {parts : List (List Char)} :
    pieces separator text = parts ↔
      parts ≠ [] ∧ (∀ part ∈ parts, separator ∉ part) ∧
        text = [separator].intercalate parts := by
  rw [pieces_eq_splitOn]
  constructor
  · rintro rfl
    refine ⟨List.splitOn_ne_nil separator text, fun part member among => ?_,
      (List.intercalate_splitOn separator).symm⟩
    have solid := (mem_splitOnP member separator among).2
    rw [BEq.rfl] at solid
    cases solid
  · rintro ⟨some, free, rfl⟩
    exact List.splitOn_intercalate separator free some

theorem mem_intercalate {separator c : Char} {parts : List (List Char)}
    (member : c ∈ [separator].intercalate parts) :
    c = separator ∨ ∃ part ∈ parts, c ∈ part := by
  induction parts with
  | nil => cases member
  | cons part rest induction =>
      have further (other : c = separator ∨ ∃ part ∈ rest, c ∈ part) :
          c = separator ∨ ∃ other ∈ part :: rest, c ∈ other :=
        other.imp_right fun ⟨other, listed, within⟩ =>
          ⟨other, List.mem_cons_of_mem _ listed, within⟩
      cases rest with
      | nil =>
          refine .inr ⟨part, List.mem_cons_self, ?_⟩
          rwa [List.intercalate_singleton] at member
      | cons next more =>
          rw [List.intercalate_cons_cons, List.append_assoc] at member
          rcases List.mem_append.mp member with member | member
          · exact .inr ⟨part, List.mem_cons_self, member⟩
          · rcases List.mem_cons.mp member with same | member
            · exact .inl same
            · exact further (induction member)

section Cut

variable {separator : Char} {before : List Char}

theorem all_ne (free : separator ∉ before) :
    ∀ c ∈ before, decide (c ≠ separator) = true := by
  intro c member
  rw [decide_eq_true_iff]
  rintro rfl
  exact free member

theorem cut_append (free : separator ∉ before) (after : List Char) :
    cut separator (before ++ separator :: after) = (before, some after) := by
  rw [cut, List.takeWhile_append_of_pos (all_ne free),
    List.dropWhile_append_of_pos (all_ne free)]
  simp

theorem cut_whole (free : separator ∉ before) :
    cut separator before = (before, none) := by
  rw [cut, List.takeWhile_eq_self_iff.mpr (all_ne free),
    List.dropWhile_eq_nil_iff.mpr (all_ne free)]

theorem cut_eq_none_iff {text : List Char} :
    cut separator text = (before, none) ↔
      separator ∉ before ∧ text = before := by
  constructor
  · intro whole
    by_cases cuts : separator ∈ text
    · obtain ⟨first, rest, rfl, free⟩ := List.eq_append_cons_of_mem cuts
      rw [cut_append free] at whole
      cases whole
    · rw [cut_whole cuts] at whole
      cases whole
      exact ⟨cuts, rfl⟩
  · rintro ⟨free, rfl⟩
    exact cut_whole free

theorem cut_eq_some_iff {text after : List Char} :
    cut separator text = (before, some after) ↔
      separator ∉ before ∧ text = before ++ separator :: after := by
  constructor
  · intro parted
    by_cases cuts : separator ∈ text
    · obtain ⟨first, rest, rfl, free⟩ := List.eq_append_cons_of_mem cuts
      rw [cut_append free] at parted
      cases parted
      exact ⟨free, rfl⟩
    · rw [cut_whole cuts] at parted
      cases parted
  · rintro ⟨free, rfl⟩
    exact cut_append free after

theorem takeWhile_reverse_whole (free : separator ∉ before) :
    before.reverse.takeWhile (· ≠ separator) = before.reverse :=
  List.takeWhile_eq_self_iff.mpr fun c member =>
    all_ne free c (List.mem_reverse.mp member)

theorem takeWhile_reverse_append {after : List Char}
    (free : separator ∉ after) (before : List Char) :
    (before ++ separator :: after).reverse.takeWhile (· ≠ separator) =
      after.reverse := by
  rw [List.reverse_append, List.reverse_cons, List.append_assoc,
    List.takeWhile_append_of_pos fun c member =>
      all_ne free c (List.mem_reverse.mp member)]
  simp

theorem length_before (before after : List Char) :
    (before ++ separator :: after).length - after.length - 1 =
      before.length := by
  rw [List.length_append, List.length_cons]
  omega

end Cut

end Orchestration.Text
