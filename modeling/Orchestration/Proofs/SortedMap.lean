import Mathlib.Data.List.Sort
import Orchestration.SortedMap

namespace Orchestration

theorem KeyOrder.before_or_before {κ : Type} [KeyOrder κ] {a b : κ}
    (different : a ≠ b) : before a b = true ∨ before b a = true := by
  cases less : before a b with
  | true => exact .inl rfl
  | false =>
      cases greater : before b a with
      | true => exact .inr rfl
      | false => exact absurd (eq_of_not_before less greater) different

namespace SortedMap

open KeyOrder

variable {κ ν : Type} [KeyOrder κ]

theorem findIn_upsertIn_self (key : κ) (fresh : ν) (present : ν → ν)
    (entries : List (κ × ν)) :
    findIn key (upsertIn key fresh present entries) =
      some ((findIn key entries).elim fresh present) := by
  fun_induction upsertIn key fresh present entries with
  | case1 => simp [findIn, KeyOrder.irrefl]
  | case2 k v rest less => simp [findIn, KeyOrder.irrefl, less]
  | case3 k v rest notLess greater induction =>
      simp [findIn, notLess, greater, induction]
  | case4 k v rest notLess notGreater => simp [findIn, notLess, notGreater]

theorem length_upsertIn (key : κ) (fresh : ν) (present : ν → ν)
    (entries : List (κ × ν)) :
    (upsertIn key fresh present entries).length =
      entries.length + (findIn key entries).elim 1 fun _ => 0 := by
  fun_induction upsertIn key fresh present entries with
  | case1 => rfl
  | case2 k v rest less => simp [findIn, less]
  | case3 k v rest notLess greater induction =>
      simp only [findIn, notLess, greater, List.length_cons, induction]
      simp only [Bool.false_eq_true, if_false, if_true, Nat.add_right_comm]
  | case4 k v rest notLess notGreater => simp [findIn, notLess, notGreater]

private theorem findIn_cons_other {key other : κ} (different : other ≠ key)
    (value : ν) (rest : List (κ × ν)) :
    findIn other ((key, value) :: rest) =
      if before other key then none else findIn other rest := by
  rcases before_or_before different with less | greater
  · simp [findIn, less]
  · simp [findIn, greater, asymm greater]

theorem findIn_upsertIn_other {key other : κ} (different : other ≠ key)
    (fresh : ν) (present : ν → ν) (entries : List (κ × ν)) :
    findIn other (upsertIn key fresh present entries) =
      findIn other entries := by
  fun_induction upsertIn key fresh present entries with
  | case1 =>
      rw [findIn_cons_other different]
      simp [findIn]
  | case2 k v rest keyLess =>
      rw [findIn_cons_other different]
      cases less : before other key with
      | true => simp [findIn, trans less keyLess]
      | false => simp
  | case3 k v rest notLess greater induction =>
      simp only [findIn, induction]
  | case4 k v rest notLess notGreater =>
      have same : key = k := eq_of_not_before
        (Bool.eq_false_iff.mpr notLess) (Bool.eq_false_iff.mpr notGreater)
      subst same
      simp only [findIn_cons_other different]

theorem findIn_eq_some_iff {key : κ} {value : ν} {entries : List (κ × ν)}
    (ascending : entries.Pairwise fun a b => before a.1 b.1 = true) :
    findIn key entries = some value ↔ (key, value) ∈ entries := by
  induction entries with
  | nil => simp [findIn]
  | cons entry rest induction =>
      obtain ⟨k, v⟩ := entry
      have inRest := induction ascending.of_cons
      have above : (key, value) ∈ rest → before k key = true := fun member =>
        List.rel_of_pairwise_cons ascending member
      cases less : before key k with
      | true =>
          have notAbove : before k key ≠ true := by simp [asymm less]
          have notHead : key ≠ k := ne_of_before less
          simp only [findIn, less, if_true, List.mem_cons, Prod.mk.injEq]
          constructor
          · simp
          · intro listed
            rcases listed with ⟨same, -⟩ | member
            · exact absurd same notHead
            · exact absurd (above member) notAbove
      | false =>
          cases greater : before k key with
          | true =>
              have notHead : key ≠ k := (ne_of_before greater).symm
              simp [findIn, less, greater, inRest, notHead]
          | false =>
              have same : key = k := eq_of_not_before less greater
              subst same
              have absent : (key, value) ∉ rest := by
                simpa [KeyOrder.irrefl] using above
              simp [findIn, KeyOrder.irrefl, absent, eq_comm]

theorem find?_eq_some_iff {map : SortedMap κ ν} {key : κ} {value : ν} :
    map.find? key = some value ↔ (key, value) ∈ map.entries :=
  findIn_eq_some_iff map.ascending

theorem mem_keys_iff {map : SortedMap κ ν} {key : κ} :
    key ∈ map.keys ↔ ∃ value, map.find? key = some value := by
  simp [keys, find?_eq_some_iff]

theorem contains_iff_mem_keys {map : SortedMap κ ν} {key : κ} :
    map.contains key = true ↔ key ∈ map.keys := by
  rw [contains, Option.isSome_iff_exists, mem_keys_iff]

theorem find?_eq_none_iff {map : SortedMap κ ν} {key : κ} :
    map.find? key = none ↔ key ∉ map.keys := by
  rw [mem_keys_iff, Option.eq_none_iff_forall_ne_some, not_exists]

theorem keys_ascending (map : SortedMap κ ν) :
    map.keys.Pairwise fun a b => before a b = true :=
  List.pairwise_map.mpr map.ascending

theorem entries_distinct (map : SortedMap κ ν) :
    map.entries.Pairwise fun a b => a.1 ≠ b.1 :=
  map.ascending.imp ne_of_before

theorem keys_nodup (map : SortedMap κ ν) : map.keys.Nodup :=
  map.keys_ascending.imp ne_of_before

/-- Maps are equal if the same is found in both. -/
theorem ext_find? {map other : SortedMap κ ν}
    (same : ∀ key, map.find? key = other.find? key) : map = other := by
  have irreflexive : Std.Irrefl fun a b : κ × ν => before a.1 b.1 = true :=
    ⟨fun entry less => ne_of_before less rfl⟩
  have antisymmetric :
      Std.Antisymm fun a b : κ × ν => before a.1 b.1 = true := by
    refine ⟨fun a b less greater => ?_⟩
    rw [asymm less] at greater
    cases greater
  apply ext
  apply map.ascending.eq_of_mem_iff other.ascending
  intro entry
  rw [← find?_eq_some_iff, ← find?_eq_some_iff, same]

@[simp] theorem find?_empty (key : κ) :
    (empty : SortedMap κ ν).find? key = none := rfl

@[simp] theorem find?_insert_self (map : SortedMap κ ν) (key : κ)
    (value : ν) : (map.insert key value).find? key = some value := by
  rw [find?, insert, findIn_upsertIn_self]
  cases findIn key map.entries <;> rfl

theorem find?_insert_other (map : SortedMap κ ν) {key other : κ}
    (different : other ≠ key) (value : ν) :
    (map.insert key value).find? other = map.find? other :=
  findIn_upsertIn_other different _ _ _

theorem mem_keys_insert {map : SortedMap κ ν} {key : κ} (added : κ) (value : ν)
    (member : key ∈ map.keys) : key ∈ (map.insert added value).keys := by
  rw [mem_keys_iff] at member ⊢
  by_cases same : key = added
  · subst same
    exact ⟨value, find?_insert_self map key value⟩
  · rwa [find?_insert_other map same]

@[simp] theorem find?_insertNew_self (map : SortedMap κ ν) (key : κ)
    (value : ν) :
    (map.insertNew key value).find? key =
      some ((map.find? key).getD value) := by
  rw [find?, insertNew, findIn_upsertIn_self, find?]
  cases findIn key map.entries <;> rfl

theorem find?_insertNew_other (map : SortedMap κ ν) {key other : κ}
    (different : other ≠ key) (value : ν) :
    (map.insertNew key value).find? other = map.find? other :=
  findIn_upsertIn_other different _ _ _

theorem mem_keys_insertNew {map : SortedMap κ ν} {added key : κ} {value : ν} :
    key ∈ (map.insertNew added value).keys ↔ key = added ∨ key ∈ map.keys := by
  rw [mem_keys_iff, mem_keys_iff]
  by_cases same : key = added
  · subst same
    simp
  · simp [find?_insertNew_other map same, same]

theorem size_insertNew (map : SortedMap κ ν) (key : κ) (value : ν) :
    (map.insertNew key value).size =
      if map.contains key then map.size else map.size + 1 := by
  have grown : (map.insertNew key value).size =
      map.size + (map.find? key).elim 1 fun _ => 0 :=
    length_upsertIn key value id map.entries
  rw [grown, contains]
  cases map.find? key <;> rfl

theorem insertNew_twice (map : SortedMap κ ν) (key : κ) (value : ν) :
    (map.insertNew key value).insertNew key value =
      map.insertNew key value := by
  apply ext_find?
  intro other
  by_cases same : other = key
  · subst same
    simp
  · simp [find?_insertNew_other _ same]

/-- It does not matter which of two new values comes first, unless they compete
for a key. -/
theorem insertNew_comm (map : SortedMap κ ν) {key other : κ}
    {value another : ν} (agree : key = other → value = another) :
    (map.insertNew key value).insertNew other another =
      (map.insertNew other another).insertNew key value := by
  by_cases same : key = other
  · subst same
    rw [agree rfl]
  · apply ext_find?
    intro found
    by_cases first : found = key
    · subst first
      simp [find?_insertNew_other _ same]
    · by_cases second : found = other
      · subst second
        simp [find?_insertNew_other _ first]
      · simp [find?_insertNew_other _ first, find?_insertNew_other _ second]

theorem find?_filter_eq_some_iff {map : SortedMap κ ν}
    {keep : κ → ν → Bool} {key : κ} {value : ν} :
    (map.filter keep).find? key = some value ↔
      map.find? key = some value ∧ keep key value = true := by
  simp [find?_eq_some_iff, filter]

theorem find?_erase_eq_some_iff {map : SortedMap κ ν} {erased key : κ}
    {value : ν} :
    (map.erase erased).find? key = some value ↔
      map.find? key = some value ∧ key ≠ erased := by
  rw [erase, find?_filter_eq_some_iff, and_congr_right_iff]
  intro _
  rw [Bool.or_eq_true]
  constructor
  · intro apart
    rcases apart with less | greater
    · exact ne_of_before less
    · exact (ne_of_before greater).symm
  · exact before_or_before

end SortedMap

namespace SortedSet

open KeyOrder

variable {κ : Type} [KeyOrder κ]

theorem mem_toList_add {set : SortedSet κ} {added key : κ} :
    key ∈ toList (add set added) ↔ key = added ∨ key ∈ toList set := by
  rw [toList, toList, add, SortedMap.mem_keys_insertNew]

end SortedSet

end Orchestration
