import Orchestration.Proofs.Number.Numeral
import Orchestration.Proofs.Text.Split

namespace Orchestration.Text

/-! Blanks around a text do not count when it is trimmed, and blanks in it
divide its fields. -/

theorem trimEnd_append {after : List Char}
    (blank : ∀ c ∈ after, isBlank c = true) (text : List Char) :
    trimEnd (text ++ after) = trimEnd text := by
  rw [trimEnd, List.reverse_append,
    List.dropWhile_append_of_pos (by simpa using blank), trimEnd]

theorem Surrounds.trim {text core : List Char} (around : Surrounds text core) :
    trim text = trim core := by
  obtain ⟨before, after, rfl, first, last⟩ := around
  have start : trimStart (before ++ core ++ after) =
      (core ++ after).dropWhile isBlank := by
    rw [trimStart, List.append_assoc, List.dropWhile_append_of_pos first]
  rw [Text.trim, start, List.dropWhile_append]
  split
  next empty =>
    have nothing : trimStart core = [] := List.isEmpty_iff.mp empty
    rw [List.dropWhile_eq_nil_iff.mpr last, Text.trim, nothing]
  next => exact trimEnd_append last (trimStart core)

theorem mem_of_mem_trim {c : Char} {text : List Char} (member : c ∈ trim text) :
    c ∈ text := by
  obtain ⟨before, after, whole, -, -⟩ := surrounds_trim text
  rw [whole]
  exact List.mem_append_left _ (List.mem_append_right _ member)

theorem trim_eq_self {text : List Char}
    (first : ∀ c ∈ text.head?, isBlank c = false)
    (last : ∀ c ∈ text.getLast?, isBlank c = false) : trim text = text := by
  have kept : ∀ {text : List Char}, (∀ c ∈ text.head?, isBlank c = false) →
      text.dropWhile isBlank = text := by
    intro text first
    cases text with
    | nil => rfl
    | cons c rest => exact List.dropWhile_cons_of_neg (by simp [first c rfl])
  have start : trimStart text = text := kept first
  rw [trim, start, trimEnd, kept, List.reverse_reverse]
  rwa [List.head?_reverse]

/-- The longest parts of a text that have no blank in them. -/
def fields (text : List Char) : List (List Char) :=
  (text.splitOnP isBlank).filter (· ≠ [])

theorem space_notMem_of_mem_fields {text field : List Char}
    (member : field ∈ fields text) : ' ' ∉ field := fun space =>
  absurd (mem_splitOnP (List.mem_filter.mp member).1 ' ' space).2
    (by decide)

/-- Nothing but a single space stands between the fields of the text. -/
def SinglySpaced (text : List Char) : Prop :=
  trim text = [' '].intercalate (fields text)

instance : DecidablePred SinglySpaced := fun text =>
  inferInstanceAs (Decidable (trim text = [' '].intercalate (fields text)))

theorem SinglySpaced.splitOn {text : List Char} (spaced : SinglySpaced text)
    (something : fields text ≠ []) :
    (trim text).splitOn ' ' = fields text := by
  rw [spaced]
  exact List.splitOn_intercalate ' '
    (fun _ member => space_notMem_of_mem_fields member) something

theorem length_splitOn (separator : Char) (text : List Char) :
    (text.splitOn separator).length =
      (text.filter (· = separator)).length + 1 := by
  induction text with
  | nil => rfl
  | cons c rest induction =>
      rw [List.splitOn_cons_eq_if_modifyHead]
      by_cases same : c = separator
      · simp [same, induction]
      · simp [same, induction]

end Orchestration.Text
