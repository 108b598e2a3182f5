namespace Orchestration

class KeyOrder (κ : Type) where
  before : κ → κ → Bool
  irrefl : ∀ a, before a a = false
  trans : ∀ {a b c}, before a b = true → before b c = true → before a c = true
  eq_of_not_before : ∀ {a b}, before a b = false → before b a = false → a = b

namespace KeyOrder

variable {κ : Type} [KeyOrder κ]

theorem asymm {a b : κ} (h : before a b = true) : before b a = false := by
  cases hba : before b a
  · rfl
  · have := trans h hba
    rw [irrefl] at this
    contradiction

theorem ne_of_before {a b : κ} (h : before a b = true) : a ≠ b := by
  rintro rfl
  rw [irrefl] at h
  contradiction

instance : KeyOrder Int where
  before a b := decide (a < b)
  irrefl a := by simp
  trans h₁ h₂ := by
    simp only [decide_eq_true_eq] at *
    omega
  eq_of_not_before h₁ h₂ := by
    simp only [decide_eq_false_iff_not] at *
    omega

/-- Texts are ordered by code point, which is also the order of their UTF-8
bytes. -/
instance : KeyOrder String where
  before a b := decide (a < b)
  irrefl a := by simp
  trans h₁ h₂ := by
    simp only [decide_eq_true_eq] at *
    exact String.lt_trans h₁ h₂
  eq_of_not_before h₁ h₂ := by
    simp only [decide_eq_false_iff_not] at *
    exact String.le_antisymm h₂ h₁

@[simp] theorem before_int (a b : Int) : before a b = decide (a < b) := rfl

@[simp] theorem before_string (a b : String) : before a b = decide (a < b) := rfl

end KeyOrder

/-! Finite maps listed in ascending key order, so that equal maps are equal
lists. -/

structure SortedMap (κ ν : Type) [KeyOrder κ] where
  entries : List (κ × ν)
  ascending : entries.Pairwise fun a b => KeyOrder.before a.1 b.1 = true

namespace SortedMap

open KeyOrder

variable {κ ν : Type} [KeyOrder κ]

instance : Inhabited (SortedMap κ ν) := ⟨⟨[], .nil⟩⟩

def empty : SortedMap κ ν := ⟨[], .nil⟩

def keys (map : SortedMap κ ν) : List κ := map.entries.map (·.1)

def values (map : SortedMap κ ν) : List ν := map.entries.map (·.2)

def isEmpty (map : SortedMap κ ν) : Bool := map.entries.isEmpty

def size (map : SortedMap κ ν) : Nat := map.entries.length

def findIn (key : κ) : List (κ × ν) → Option ν
  | [] => none
  | (k, v) :: rest =>
      if before key k then none
      else if before k key then findIn key rest
      else some v

def find? (map : SortedMap κ ν) (key : κ) : Option ν := findIn key map.entries

def contains (map : SortedMap κ ν) (key : κ) : Bool := (map.find? key).isSome

/-- Puts `fresh` under `key`; a value already there becomes `present` of it. -/
def upsertIn (key : κ) (fresh : ν) (present : ν → ν) :
    List (κ × ν) → List (κ × ν)
  | [] => [(key, fresh)]
  | (k, v) :: rest =>
      if before key k then (key, fresh) :: (k, v) :: rest
      else if before k key then (k, v) :: upsertIn key fresh present rest
      else (k, present v) :: rest

theorem key_mem_upsertIn {key : κ} {fresh : ν} {present : ν → ν}
    {entries : List (κ × ν)} {entry : κ × ν}
    (h : entry ∈ upsertIn key fresh present entries) :
    entry.1 = key ∨ ∃ old ∈ entries, old.1 = entry.1 := by
  fun_induction upsertIn key fresh present entries with
  | case1 => exact .inl (by simp_all)
  | case2 k v rest hlt =>
      rcases List.mem_cons.mp h with rfl | h
      · exact .inl rfl
      · exact .inr ⟨entry, h, rfl⟩
  | case3 k v rest hlt hgt ih =>
      rcases List.mem_cons.mp h with rfl | h
      · exact .inr ⟨_, List.mem_cons_self, rfl⟩
      · rcases ih h with h | ⟨old, hold, hkey⟩
        · exact .inl h
        · exact .inr ⟨old, List.mem_cons_of_mem _ hold, hkey⟩
  | case4 k v rest hlt hgt =>
      rcases List.mem_cons.mp h with rfl | h
      · exact .inr ⟨(k, v), List.mem_cons_self, rfl⟩
      · exact .inr ⟨entry, List.mem_cons_of_mem _ h, rfl⟩

theorem ascending_upsertIn {key : κ} {fresh : ν} {present : ν → ν}
    {entries : List (κ × ν)}
    (h : entries.Pairwise fun a b => before a.1 b.1 = true) :
    (upsertIn key fresh present entries).Pairwise
      fun a b => before a.1 b.1 = true := by
  fun_induction upsertIn key fresh present entries with
  | case1 => exact List.pairwise_singleton _ _
  | case2 k v rest hlt =>
      refine List.Pairwise.cons ?_ h
      intro entry hentry
      rcases List.mem_cons.mp hentry with rfl | hentry
      · exact hlt
      · exact trans hlt (List.rel_of_pairwise_cons h hentry)
  | case3 k v rest hlt hgt ih =>
      refine List.Pairwise.cons ?_ (ih (List.Pairwise.of_cons h))
      intro entry hentry
      rcases key_mem_upsertIn hentry with hkey | ⟨old, hold, hkey⟩
      · rw [hkey]
        exact hgt
      · rw [← hkey]
        exact List.rel_of_pairwise_cons h hold
  | case4 k v rest hlt hgt =>
      refine List.Pairwise.cons ?_ (List.Pairwise.of_cons h)
      intro entry hentry
      exact List.rel_of_pairwise_cons h hentry

def insert (map : SortedMap κ ν) (key : κ) (value : ν) : SortedMap κ ν :=
  ⟨upsertIn key value (fun _ => value) map.entries,
    ascending_upsertIn map.ascending⟩

/-- Puts a value under a key unless the key has one. -/
def insertNew (map : SortedMap κ ν) (key : κ) (value : ν) : SortedMap κ ν :=
  ⟨upsertIn key value id map.entries, ascending_upsertIn map.ascending⟩

def filter (map : SortedMap κ ν) (keep : κ → ν → Bool) : SortedMap κ ν :=
  ⟨map.entries.filter fun entry => keep entry.1 entry.2,
    map.ascending.filter _⟩

def erase (map : SortedMap κ ν) (key : κ) : SortedMap κ ν :=
  map.filter fun k _ => before k key || before key k

/-- Entries inserted from left to right: of equal keys the last one stays. -/
def ofList (entries : List (κ × ν)) : SortedMap κ ν :=
  entries.foldl (fun map entry => map.insert entry.1 entry.2) empty

theorem ext {a b : SortedMap κ ν} (h : a.entries = b.entries) : a = b := by
  cases a
  cases b
  simp_all

instance [DecidableEq κ] [DecidableEq ν] : DecidableEq (SortedMap κ ν) :=
  fun a b =>
    if h : a.entries = b.entries then isTrue (ext h)
    else isFalse fun heq => h (heq ▸ rfl)

end SortedMap

/-- Sets listed in ascending order. -/
abbrev SortedSet (κ : Type) [KeyOrder κ] := SortedMap κ Unit

namespace SortedSet

variable {κ : Type} [KeyOrder κ]

def add (set : SortedSet κ) (key : κ) : SortedSet κ := set.insertNew key ()

def toList (set : SortedSet κ) : List κ := set.keys

end SortedSet

end Orchestration
