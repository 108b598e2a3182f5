import Mathlib.Data.List.DropRight
import Orchestration.Url.Basic
import Orchestration.Proofs.Task.Statement
import Orchestration.Proofs.Text.Split
import Orchestration.Proofs.Url.Percent

namespace Orchestration.Url

open Text

theorem isSlash_eq_false_iff {c : Char} :
    isSlash true c = false ↔ c ≠ '/' ∧ c ≠ '\\' := by
  simp [isSlash]

/-- A name that is neither encoded nor followed. -/
structure Settled (name : List Char) : Prop where
  clear : Clear pathSet name
  whole : ∀ c ∈ name, isSlash true c = false
  steady : isDoubleDot name = false ∧ isSingleDot name = false

theorem settled_nil : Settled [] where
  clear := clear_nil
  whole := nofun
  steady := ⟨by decide +kernel, by decide +kernel⟩

theorem notMem_lower {name : List Char} {c : Char} (free : c ∉ name)
    (other : ¬ (97 ≤ c.toNat ∧ c.toNat ≤ 122)) :
    c ∉ (lower (String.ofList name)).toList := by
  rw [lower, String.toList_map, String.toList_ofList]
  intro member
  obtain ⟨letter, among, same⟩ := List.mem_map.mp member
  have code := toNat_lowerAscii letter
  rw [same] at code
  split at code
  next => omega
  next => exact free (Char.toNat_inj.mp code ▸ among)

theorem steady_of_free {name : List Char} (point : '.' ∉ name)
    (percent : '%' ∉ name) :
    isDoubleDot name = false ∧ isSingleDot name = false := by
  have noPoint := notMem_lower point (by decide)
  have noPercent := notMem_lower percent (by decide)
  rw [isDoubleDot, isSingleDot, List.contains_eq_mem, List.contains_eq_mem,
    decide_eq_false_iff_not, decide_eq_false_iff_not]
  generalize lower (String.ofList name) = text at noPoint noPercent
  constructor
  all_goals
    intro member
    simp only [List.mem_cons, List.not_mem_nil, or_false] at member
  · obtain rfl | rfl | rfl | rfl := member
    · exact noPoint (by decide +kernel)
    · exact noPoint (by decide +kernel)
    · exact noPoint (by decide +kernel)
    · exact noPercent (by decide +kernel)
  · obtain rfl | rfl := member
    · exact noPoint (by decide +kernel)
    · exact noPercent (by decide +kernel)

section Follow

variable {done names : List (List Char)} {name : List Char}

theorem follow_settled (settled : ∀ name ∈ names, Settled name) :
    follow done names = done ++ names := by
  induction names generalizing done with
  | nil => rw [follow, List.append_nil]
  | cons name rest induction =>
      have first := settled name List.mem_cons_self
      have same := encode_clear first.clear
      cases rest with
      | nil => simp [follow, same, first.steady]
      | cons next more =>
          simp only [follow, same, first.steady, Bool.false_eq_true, if_false]
          rw [induction fun other among =>
            settled other (List.mem_cons_of_mem _ among)]
          simp

theorem mem_back (member : name ∈ back done) : name ∈ done := by
  rw [back] at member
  split at member
  next => exact member
  next => exact List.mem_of_mem_dropLast member

theorem settled_encode (whole : ∀ c ∈ name, isSlash true c = false)
    (single : ¬ isSingleDot (encode pathSet name) = true)
    (double : ¬ isDoubleDot (encode pathSet name) = true) :
    Settled (encode pathSet name) where
  clear := clear_encode (by decide) name
  whole := encode_avoids (by decide) (by decide) whole
  steady := ⟨Bool.eq_false_iff.mpr double, Bool.eq_false_iff.mpr single⟩

theorem settled_concat (before : ∀ name ∈ done, Settled name)
    (last : Settled name) : ∀ other ∈ done ++ [name], Settled other :=
  List.forall_mem_append.mpr ⟨before, List.forall_mem_singleton.mpr last⟩

theorem settled_back (before : ∀ name ∈ done, Settled name) :
    ∀ name ∈ back done, Settled name :=
  fun name member => before name (mem_back member)

theorem settled_follow (before : ∀ name ∈ done, Settled name)
    (whole : ∀ name ∈ names, ∀ c ∈ name, isSlash true c = false) :
    ∀ name ∈ follow done names, Settled name := by
  fun_induction follow done names with
  | case1 => exact before
  | case2 => exact settled_concat (settled_back before) settled_nil
  | case3 => exact settled_concat before settled_nil
  | case4 done last text double single =>
      exact settled_concat before
        (settled_encode (whole last List.mem_cons_self) single double)
  | case5 done segment rest more text double induction =>
      exact induction (settled_back before) fun name among =>
        whole name (List.mem_cons_of_mem _ among)
  | case6 done segment rest more text double single induction =>
      exact induction before fun name among =>
        whole name (List.mem_cons_of_mem _ among)
  | case7 done segment rest more text double single induction =>
      have settled :=
        settled_encode (whole segment List.mem_cons_self) single double
      exact induction (settled_concat before settled) fun name among =>
        whole name (List.mem_cons_of_mem _ among)

theorem follow_ne_nil (more : names ≠ []) : follow done names ≠ [] := by
  fun_induction follow done names with
  | case1 => exact absurd rfl more
  | case2 | case3 | case4 => exact List.concat_ne_nil _ _
  | case5 _ _ _ _ _ _ induction => exact induction ‹_›
  | case6 _ _ _ _ _ _ _ induction => exact induction ‹_›
  | case7 _ _ _ _ _ _ _ induction => exact induction ‹_›

end Follow

theorem cutSegments_eq_splitOnP (special : Bool) (text : List Char) :
    cutSegments special text = text.splitOnP (isSlash special) := by
  rw [cutSegments, pieces_eq_splitOn]
  induction text with
  | nil => rfl
  | cons c rest induction =>
      rw [List.map_cons, List.splitOn_cons_eq_if_modifyHead,
        List.splitOnP_cons_eq_if_modifyHead, induction]
      by_cases slash : isSlash special c = true
      · simp [slash]
      · have other : c ≠ '/' := by
          rintro rfl
          exact slash rfl
        simp [slash, other]

variable {names : List (List Char)}

theorem cutSegments_join {first : List Char}
    (whole : ∀ name ∈ first :: names, ∀ c ∈ name, isSlash true c = false) :
    cutSegments true (first ++ names.flatMap ('/' :: ·)) = first :: names := by
  rw [cutSegments_eq_splitOnP]
  induction names generalizing first with
  | nil =>
      rw [List.flatMap_nil, List.append_nil]
      exact List.splitOnP_eq_singleton (whole first List.mem_cons_self)
  | cons next rest induction =>
      rw [List.flatMap_cons, List.cons_append,
        List.splitOnP_append_cons_of_forall_mem
          (whole first List.mem_cons_self) '/' rfl,
        induction fun name among => whole name (List.mem_cons_of_mem _ among)]

/-- The names of a path that reading leaves as it is. -/
structure SettledPath (names : List (List Char)) : Prop where
  nonempty : names ≠ []
  settled : ∀ name ∈ names, Settled name

theorem settledPath_readRooted (text : List Char) :
    ∃ names, readRooted true text = .segments names ∧ SettledPath names := by
  refine ⟨_, rfl, follow_ne_nil ?_, settled_follow nofun ?_⟩
  · rw [cutSegments_eq_splitOnP]
    exact List.splitOnP_ne_nil _ _
  · intro name member
    rw [cutSegments_eq_splitOnP] at member
    exact fun c among => (mem_splitOnP member c among).2

theorem settledPath_readPath (text : List Char) :
    ∃ names, readPath true text = .segments names ∧ SettledPath names := by
  cases text with
  | nil =>
      exact ⟨[[]], rfl, List.cons_ne_nil _ _,
        List.forall_mem_singleton.mpr settled_nil⟩
  | cons c rest => exact settledPath_readRooted _

theorem SettledPath.readPath_text (path : SettledPath names) :
    readPath true (Path.segments names).text = .segments names := by
  obtain ⟨first, rest, rfl⟩ := List.exists_cons_of_ne_nil path.nonempty
  have cutting : cutSegments true (first ++ rest.flatMap ('/' :: ·)) =
      first :: rest :=
    cutSegments_join fun name among => (path.settled name among).whole
  rw [Path.text, List.flatMap_cons, List.cons_append, readPath]
  simp only [isSlash, decide_true, Bool.true_or, if_true]
  rw [readRooted, cutting, follow_settled path.settled, List.nil_append]

/-- The names before the empty ones at the end. -/
def trimmed (names : List (List Char)) : List (List Char) :=
  names.rdropWhile List.isEmpty

theorem text_trimmed (whole : ∀ name ∈ names, '/' ∉ name) :
    (Path.segments names).text.rdropWhile (· = '/') =
      (Path.segments (trimmed names)).text := by
  induction names using List.reverseRecOn with
  | nil => rfl
  | append_singleton init name induction =>
      have before := induction fun other among =>
        whole other (List.mem_append_left _ among)
      have last := whole name (List.mem_append_right _ List.mem_cons_self)
      rw [Path.text, Path.text, trimmed, List.flatMap_append,
        List.flatMap_singleton]
      cases name using List.reverseRecOn with
      | nil =>
          rw [List.rdropWhile_concat_pos _ _ _ (by decide),
            List.rdropWhile_concat_pos _ _ _ rfl]
          exact before
      | append_singleton start c =>
          have other : c ≠ '/' := by
            rintro rfl
            exact last (List.mem_append_right _ List.mem_cons_self)
          rw [← List.cons_append, ← List.append_assoc,
            List.rdropWhile_concat_neg _ _ _ (by simpa using other),
            List.rdropWhile_concat_neg _ _ _ (by simp), List.flatMap_append,
            List.flatMap_singleton]
          simp

theorem SettledPath.concat_trimmed {name : List Char} (path : SettledPath names)
    (last : Settled name) : SettledPath (trimmed names ++ [name]) where
  nonempty := List.concat_ne_nil _ _
  settled := settled_concat (fun other among =>
    path.settled other ((List.rdropWhile_prefix _ _).subset among)) last

end Orchestration.Url
