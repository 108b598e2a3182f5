import Orchestration.Proofs.Json.Access
import Orchestration.Proofs.Json.Scan

namespace Orchestration

namespace SortedMap

theorem mem_of_mem_ofList {ν : Type} {entries : List (String × ν)}
    {entry : String × ν} (member : entry ∈ (ofList entries).entries) :
    entry ∈ entries := by
  have last := find?_eq_some_iff.mpr member
  rw [find?_ofList] at last
  obtain ⟨before, after, split, -⟩ := List.lookup_eq_some_iff.mp last
  have there : entry ∈ entries.reverse := by
    rw [split]
    exact List.mem_append_right before List.mem_cons_self
  exact List.mem_reverse.mp there

end SortedMap

namespace Json

@[simp] theorem holdsWords_string (text : String) :
    (string text).holdsWords = true := rfl

@[simp] theorem holdsWords_ofInt (value : Int) :
    (ofInt value).holdsWords = isWord value := rfl

@[simp] theorem holdsWords_ofNat (value : Nat) :
    (ofNat value).holdsWords = isWord value := rfl

@[simp] theorem holdsWords_ofOption {α : Type} (encode : α → Json)
    (value : Option α) :
    (ofOption encode value).holdsWords =
      value.all fun value => (encode value).holdsWords := by
  cases value <;> rfl

@[simp] theorem holdsWords_array (items : List Json) :
    (array items).holdsWords = items.all holdsWords := by
  rw [holdsWords]
  induction items with
  | nil => rfl
  | cons item rest induction => rw [itemsHoldWords, induction, List.all_cons]

@[simp] theorem holdsWords_object (fields : List (String × Json)) :
    (object fields).holdsWords = fields.all (·.2.holdsWords) := by
  rw [holdsWords]
  induction fields with
  | nil => rfl
  | cons field rest induction =>
      rw [fieldsHoldWords, induction, List.all_cons]

mutual

/-- Sorting brings in no integers. -/
theorem holdsWords_sorted : (json : Json) → json.holdsWords = true →
    json.sorted.holdsWords = true
  | .null, words | .bool _, words | .number _, words | .string _, words => words
  | .array items, words => by
      rw [holdsWords_array, List.all_eq_true] at words
      rw [sorted, holdsWords_array, List.all_eq_true]
      exact holdsWords_sortedItems items words
  | .object fields, words => by
      rw [holdsWords_object, List.all_eq_true] at words
      rw [sorted, ofMap, holdsWords_object, List.all_eq_true]
      exact fun entry member => holdsWords_sortedFields fields words entry
        (SortedMap.mem_of_mem_ofList member)

theorem holdsWords_sortedItems : (items : List Json) →
    (∀ item ∈ items, item.holdsWords = true) →
    ∀ item ∈ sortedItems items, item.holdsWords = true
  | [], _, _, member => nomatch member
  | item :: rest, words, _, member => by
      obtain ⟨first, others⟩ := List.forall_mem_cons.mp words
      rcases List.mem_cons.mp member with rfl | later
      · exact holdsWords_sorted item first
      · exact holdsWords_sortedItems rest others _ later

theorem holdsWords_sortedFields : (fields : List (String × Json)) →
    (∀ field ∈ fields, field.2.holdsWords = true) →
    ∀ field ∈ sortedFields fields, field.2.holdsWords = true
  | [], _, _, member => nomatch member
  | (key, value) :: rest, words, _, member => by
      obtain ⟨first, others⟩ := List.forall_mem_cons.mp words
      rcases List.mem_cons.mp member with rfl | later
      · exact holdsWords_sorted value first
      · exact holdsWords_sortedFields rest others _ later

end

end Json

end Orchestration
