import Mathlib.Data.List.Induction
import Orchestration.Json.Basic
import Orchestration.Proofs.SortedMap

namespace Orchestration

namespace SortedMap

variable {κ ν : Type} [BEq κ] [LawfulBEq κ]

theorem lookup_eq_some_iff {entries : List (κ × ν)} {key : κ}
    {value : ν} (distinct : entries.Pairwise fun a b => a.1 ≠ b.1) :
    entries.lookup key = some value ↔ (key, value) ∈ entries := by
  induction entries with
  | nil => simp
  | cons entry rest induction =>
      obtain ⟨k, v⟩ := entry
      rw [List.lookup_cons]
      by_cases same : key = k
      · subst same
        have absent : (key, value) ∉ rest := fun member =>
          List.rel_of_pairwise_cons distinct member rfl
        simp [absent, eq_comm]
      · have unequal : (key == k) = false := beq_false_of_ne same
        simp [unequal, same, induction distinct.of_cons]

variable [KeyOrder κ]

theorem lookup_entries (map : SortedMap κ ν) (key : κ) :
    map.entries.lookup key = map.find? key := by
  apply Option.ext
  intro value
  rw [find?_eq_some_iff]
  exact lookup_eq_some_iff map.entries_distinct

theorem lookup_reverse_entries (map : SortedMap κ ν) (key : κ) :
    map.entries.reverse.lookup key = map.find? key := by
  apply Option.ext
  intro value
  have distinct : map.entries.reverse.Pairwise fun a b => a.1 ≠ b.1 :=
    List.pairwise_reverse.mpr (map.entries_distinct.imp Ne.symm)
  rw [find?_eq_some_iff, lookup_eq_some_iff distinct, List.mem_reverse]

/-- Of equal keys the last one counts. -/
theorem find?_ofList (entries : List (κ × ν)) (key : κ) :
    (ofList entries).find? key = entries.reverse.lookup key := by
  induction entries using List.reverseRecOn with
  | nil => rfl
  | append_singleton rest entry induction =>
      obtain ⟨k, v⟩ := entry
      have last : ofList (rest ++ [(k, v)]) = (ofList rest).insert k v := by
        simp [ofList]
      rw [last, List.reverse_append, List.reverse_singleton,
        List.singleton_append, List.lookup_cons]
      by_cases same : key = k
      · subst same
        simp
      · have unequal : (key == k) = false := beq_false_of_ne same
        rw [find?_insert_other _ same, unequal]
        exact induction

end SortedMap

namespace Json

theorem sortedItems_eq (items : List Json) :
    sortedItems items = items.map sorted := by
  induction items with
  | nil => rfl
  | cons item rest induction => rw [sortedItems, induction, List.map_cons]

theorem sortedFields_eq (fields : List (String × Json)) :
    sortedFields fields =
      fields.map fun field => (field.1, sorted field.2) := by
  induction fields with
  | nil => rfl
  | cons field rest induction =>
      rw [sortedFields, induction, List.map_cons]

theorem lookup_map {β : Type} (convert : Json → β)
    (fields : List (String × Json)) (name : String) :
    (fields.map fun field => (field.1, convert field.2)).lookup name =
      (fields.lookup name).map convert := by
  induction fields with
  | nil => rfl
  | cons field rest induction =>
      obtain ⟨key, value⟩ := field
      simp only [List.map_cons, List.lookup_cons]
      cases name == key with
      | true => rfl
      | false => exact induction

/-- What is not null is still there after sorting. -/
theorem field?_sorted {fields : List (String × Json)} {name : String}
    {value : Json} (found : fields.reverse.lookup name = some value)
    (something : value.sorted ≠ .null) :
    (Json.object fields).sorted.field? name = some value.sorted := by
  have sortedFound : (SortedMap.ofList (sortedFields fields)).find? name =
      some value.sorted := by
    rw [SortedMap.find?_ofList, sortedFields_eq, ← List.map_reverse,
      lookup_map, found]
    rfl
  rw [sorted, ofMap, field?, SortedMap.lookup_entries, sortedFound]
  split
  next missing => exact absurd (Option.some.inj missing) something
  next => rfl

theorem field?_sorted_ofInt {fields : List (String × Json)} {name : String}
    {value : Int}
    (found : fields.reverse.lookup name = some (.ofInt value)) :
    (Json.object fields).sorted.field? name = some (.ofInt value) :=
  field?_sorted found nofun

theorem field?_sorted_none {fields : List (String × Json)} {name : String}
    (missing : fields.reverse.lookup name = none) :
    (Json.object fields).sorted.field? name = none := by
  have sortedMissing : (SortedMap.ofList (sortedFields fields)).find? name =
      none := by
    rw [SortedMap.find?_ofList, sortedFields_eq, ← List.map_reverse,
      lookup_map, missing]
    rfl
  rw [sorted, ofMap, field?, SortedMap.lookup_entries, sortedMissing]

end Json

end Orchestration
