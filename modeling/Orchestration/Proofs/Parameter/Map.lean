import Mathlib.Data.List.Nodup
import Orchestration.Proofs.Parameter.Inference
import Orchestration.Proofs.Parameter.Raw

namespace Orchestration

namespace ParameterMap

theorem names_insertIn (name : String) (value : HostValue)
    (entries : List (String × HostValue)) :
    (insertIn name value entries).map (·.1) =
      if name ∈ entries.map (·.1) then entries.map (·.1)
      else entries.map (·.1) ++ [name] := by
  induction entries with
  | nil => rfl
  | cons entry rest induction =>
      obtain ⟨key, old⟩ := entry
      rw [insertIn, List.map_cons]
      by_cases same : key = name
      · simp [same]
      · rw [if_neg same, List.map_cons, induction]
        by_cases listed : name ∈ rest.map (·.1)
        · rw [if_pos listed, if_pos (.tail _ listed)]
        · rw [if_neg listed, if_neg, List.cons_append]
          rw [List.mem_cons]
          exact not_or.mpr ⟨Ne.symm same, listed⟩

theorem names_insert (map : ParameterMap) (name : String)
    (value : HostValue) :
    (map.insert name value).names =
      if name ∈ map.names then map.names else map.names ++ [name] :=
  names_insertIn name value map.entries

def insertAll (map : ParameterMap) (inserted : List (String × HostValue)) :
    ParameterMap :=
  inserted.foldl (fun map entry => map.insert entry.1 entry.2) map

@[simp] theorem insertAll_nil (map : ParameterMap) : map.insertAll [] = map :=
  rfl

@[simp] theorem insertAll_append (map : ParameterMap)
    (first second : List (String × HostValue)) :
    map.insertAll (first ++ second) =
      (map.insertAll first).insertAll second :=
  List.foldl_append

theorem insertAll_ofList (first second : List (String × HostValue)) :
    (ofList first).insertAll second = ofList (first ++ second) :=
  (insertAll_append empty first second).symm

theorem ofList_concat (inserted : List (String × HostValue)) (name : String)
    (value : HostValue) :
    ofList (inserted ++ [(name, value)]) =
      (ofList inserted).insert name value := by
  rw [← insertAll_ofList]
  rfl

end ParameterMap

/-- The names of a list, each of them once and in the order in which they come
first. -/
structure FirstOccurrences (names given : List String) : Prop where
  once : names.Nodup
  mem_iff : ∀ name, name ∈ names ↔ name ∈ given
  order : names.Pairwise fun name other => given.idxOf name < given.idxOf other

namespace FirstOccurrences

variable {names given : List String} {name : String}

theorem nil : FirstOccurrences [] [] where
  once := .nil
  mem_iff _ := .rfl
  order := .nil

theorem order_append (first : FirstOccurrences names given)
    (more : List String) :
    names.Pairwise fun name other =>
      (given ++ more).idxOf name < (given ++ more).idxOf other := by
  refine first.order.imp_of_mem fun before after less => ?_
  rwa [List.idxOf_append_of_mem ((first.mem_iff _).mp before),
    List.idxOf_append_of_mem ((first.mem_iff _).mp after)]

theorem again (first : FirstOccurrences names given) (listed : name ∈ names) :
    FirstOccurrences names (given ++ [name]) where
  once := first.once
  mem_iff other := by
    rw [List.mem_append, List.mem_singleton, ← first.mem_iff]
    exact ⟨.inl, fun either => either.elim id fun same => same ▸ listed⟩
  order := first.order_append [name]

theorem fresh (first : FirstOccurrences names given) (new : name ∉ names) :
    FirstOccurrences (names ++ [name]) (given ++ [name]) where
  once := first.once.append (List.nodup_singleton name)
    (List.disjoint_singleton.mpr new)
  mem_iff other := by rw [List.mem_append, List.mem_append, first.mem_iff]
  order := by
    refine List.pairwise_append.mpr ⟨first.order_append [name],
      List.pairwise_singleton _ _, fun other member last same => ?_⟩
    have given := (first.mem_iff other).mp member
    rw [List.mem_singleton.mp same, List.idxOf_append_of_mem given,
      List.idxOf_append_of_notMem ((first.mem_iff name).not.mp new),
      List.idxOf_cons_self]
    exact Nat.lt_add_right 0 (List.idxOf_lt_length_of_mem given)

theorem unique {others : List String} (first : FirstOccurrences names given)
    (second : FirstOccurrences others given) : names = others := by
  have same : names.Perm others :=
    (List.perm_ext_iff_of_nodup first.once second.once).mpr fun name =>
      (first.mem_iff name).trans (second.mem_iff name).symm
  exact same.eq_of_pairwise
    (fun _ _ _ _ less more => (lt_asymm less more).elim)
    first.order second.order

end FirstOccurrences

namespace ParameterMap

/-- What a map keeps of the values put in: each name once, in the order in which
the names came first, with the value that came last. -/
structure Keeps (map : ParameterMap) (inserted : List (String × HostValue)) :
    Prop where
  names : FirstOccurrences map.names (inserted.map (·.1))
  last : ∀ name, map.find? name = inserted.reverse.lookup name

namespace Keeps

variable {map : ParameterMap} {inserted : List (String × HostValue)}

theorem insert (keeps : map.Keeps inserted) (name : String)
    (value : HostValue) :
    (map.insert name value).Keeps (inserted ++ [(name, value)]) where
  names := by
    rw [names_insert, List.map_append]
    split
    · exact keeps.names.again ‹_›
    · exact keeps.names.fresh ‹_›
  last other := by
    rw [find?_insert, List.reverse_concat, lookup_cons, keeps.last]

theorem lookup_of_mem (keeps : map.Keeps inserted)
    {entry : String × HostValue} (member : entry ∈ map.entries) :
    inserted.reverse.lookup entry.1 = some entry.2 := by
  rw [← keeps.last, find?]
  have once := keeps.names.once
  rw [ParameterMap.names] at once
  clear keeps
  generalize map.entries = entries at once member
  induction entries with
  | nil => cases member
  | cons first rest induction =>
      rw [List.map_cons, List.nodup_cons] at once
      rw [lookup_cons]
      rcases List.mem_cons.mp member with rfl | later
      · exact if_pos rfl
      · rw [if_neg, induction once.2 later]
        exact fun same => once.1 (same ▸ List.mem_map_of_mem later)

theorem entries_eq (keeps : map.Keeps inserted) :
    map.entries = map.names.filterMap fun name =>
      (inserted.reverse.lookup name).map (name, ·) := by
  rw [ParameterMap.names, List.filterMap_map]
  refine (List.filterMap_some.symm.trans (List.filterMap_congr ?_))
  intro entry member
  rw [Function.comp, keeps.lookup_of_mem member]
  rfl

theorem eq {other : ParameterMap} (keeps : map.Keeps inserted)
    {more : List (String × HostValue)} (others : other.Keeps more)
    (names : inserted.map (·.1) = more.map (·.1))
    (last : ∀ name, inserted.reverse.lookup name = more.reverse.lookup name) :
    map = other := by
  have listed : map.names = other.names :=
    keeps.names.unique (names ▸ others.names)
  have entries : map.entries = other.entries := by
    rw [keeps.entries_eq, others.entries_eq, listed]
    simp only [last]
  cases map
  cases other
  exact congrArg ParameterMap.mk entries

theorem toParameters_ok_iff (keeps : map.Keeps inserted)
    {direction : Direction} {parameters : List Parameter} :
    map.toParameters direction = .ok parameters ↔
      List.Forall₂ (fun name parameter => ∃ value typed,
        inserted.reverse.lookup name = some value ∧
          value.infer = .ok typed ∧
          parameter = ⟨name, direction, typed.type, typed.value⟩)
        map.names parameters := by
  rw [toParameters, Parameter.inferAll_ok_iff, ParameterMap.names,
    List.forall₂_map_left_iff]
  have kept : ∀ entry ∈ map.entries,
      inserted.reverse.lookup entry.1 = some entry.2 :=
    fun entry => keeps.lookup_of_mem
  constructor
  · intro inferred
    refine ((List.forall₂_and_left _ _).mpr ⟨kept, inferred⟩).imp ?_
    rintro entry _ ⟨last, typed, found, rfl⟩
    exact ⟨entry.2, typed, last, found, rfl⟩
  · intro told
    refine ((List.forall₂_and_left _ _).mpr ⟨kept, told⟩).imp ?_
    rintro entry _ ⟨last, value, typed, same, found, rfl⟩
    cases last.symm.trans same
    exact ⟨typed, found, rfl⟩

theorem toParameters_error_iff (keeps : map.Keeps inserted)
    {direction : Direction} :
    (∃ error, map.toParameters direction = .error error) ↔
      ∃ name value error, inserted.reverse.lookup name = some value ∧
        value.infer = .error error := by
  constructor
  · rintro ⟨error, failed⟩
    obtain ⟨entry, member, wrong⟩ :=
      Parameter.exists_of_inferAll_error failed
    exact ⟨entry.1, entry.2, error, keeps.lookup_of_mem member, wrong⟩
  · rintro ⟨name, value, error, last, wrong⟩
    rw [← keeps.last] at last
    obtain ⟨before, after, entries, -⟩ := List.lookup_eq_some_iff.mp last
    have member : (name, value) ∈ map.entries := by simp [entries]
    cases outcome : map.toParameters direction with
    | error other => exact ⟨other, rfl⟩
    | ok parameters =>
        obtain ⟨typed, found⟩ :=
          Parameter.exists_inferAll_iff.mp ⟨parameters, outcome⟩ _ member
        cases found.symm.trans wrong

end Keeps

theorem keeps_ofList (inserted : List (String × HostValue)) :
    (ofList inserted).Keeps inserted := by
  induction inserted using List.reverseRecOn with
  | nil => exact ⟨.nil, fun _ => rfl⟩
  | append_singleton rest entry induction =>
      rw [ofList_concat]
      exact induction.insert entry.1 entry.2

end ParameterMap

end Orchestration
