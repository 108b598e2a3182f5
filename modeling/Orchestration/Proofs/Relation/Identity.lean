import Mathlib.Order.Defs.LinearOrder
import Orchestration.Proofs.Relation

namespace Orchestration

open KeyOrder

/-! A relation is what its ends are, whatever its name. Equality, order, hashes
and wire records agree on that, and so do the sets that are made with them. -/

/-- Remembers the codes that it was fed with, the last one first. -/
def Hasher.recorder : Hasher where
  State := List Int
  start := []
  feed codes code := code :: codes
  finish _ := 0

namespace Relation

theorem beq_iff_endpoints {a b : Relation} :
    (a == b) = true ↔ a.endpoints = b.endpoints :=
  beq_iff_eq (a := a.endpoints)

theorem beq_iff {a b : Relation} :
    (a == b) = true ↔ a.pre = b.pre ∧ a.post = b.post := by
  rw [beq_iff_endpoints, endpoints, endpoints, Endpoints.mk.injEq]

instance : EquivBEq Relation where
  rfl := beq_iff_endpoints.mpr rfl
  symm same := beq_iff_endpoints.mpr (beq_iff_endpoints.mp same).symm
  trans first second := beq_iff_endpoints.mpr
    ((beq_iff_endpoints.mp first).trans (beq_iff_endpoints.mp second))

theorem eq_of_beq {a b : Relation} (same : (a == b) = true)
    (name : a.name = b.name) : a = b := by
  obtain ⟨pre, post⟩ := beq_iff.mp same
  cases a
  cases b
  cases pre
  cases post
  cases name
  rfl

theorem compare_eq_lt_iff {a b : Relation} :
    a.compare b = .lt ↔ a.pre < b.pre ∨ a.pre = b.pre ∧ a.post < b.post := by
  simp [compare, Endpoints.compare, endpoints, Ordering.then_eq_lt,
    Int.compare_eq_lt]

/-- Sets of relations are in the order of relations. -/
theorem before_iff {a b : Relation} :
    before a.endpoints b.endpoints = true ↔ a.compare b = .lt := by
  rw [compare_eq_lt_iff]
  exact decide_eq_true_iff

instance : Std.TransCmp Relation.compare :=
  inferInstanceAs (Std.TransCmp (compareLex
    (compareOn Relation.pre) (compareOn Relation.post)))

instance : Std.LawfulBEqCmp Relation.compare where
  compare_eq_iff_beq {a b} := by
    rw [beq_iff]
    simp [compare, Endpoints.compare, endpoints, Ordering.then_eq_eq]

theorem beq_iff_feed {a b : Relation} :
    (a == b) = true ↔ ∀ hasher, a.feed hasher = b.feed hasher := by
  rw [beq_iff]
  constructor
  · rintro ⟨pre, post⟩ hasher
    funext state
    rw [feed, feed, pre, post]
  · intro alike
    have codes : [a.post, a.pre] = [b.post, b.pre] :=
      congrFun (alike .recorder) []
    simp only [List.cons.injEq, and_true] at codes
    exact codes.symm

theorem hashBy_eq {a b : Relation} (same : (a == b) = true) (hasher : Hasher) :
    a.hashBy hasher = b.hashBy hasher := by
  rw [hashBy, hashBy, beq_iff_feed.mp same]

theorem beq_iff_toJson {a b : Relation} :
    (a == b) = true ↔ a.toJson = b.toJson := by
  simp [beq_iff, toJson, Json.ofInt]

end Relation

/-- Of relations in a list, the first one of every pair of ends, in ascending
order of their ends. -/
structure FirstOfEach (relations kept : List Relation) : Prop where
  ascending : kept.Pairwise fun a b =>
    a.pre < b.pre ∨ a.pre = b.pre ∧ a.post < b.post
  single : ∀ relation ∈ relations, ∃! held, held ∈ kept ∧ held == relation
  first : ∀ relation, relation ∈ kept ↔ ∃ before after,
    relations = before ++ relation :: after ∧
      ∀ other ∈ before, (other == relation) = false

namespace RelationSet

open SortedMap

theorem find?_foldl_add (relations : List Relation) (set : RelationSet)
    (ends : Endpoints) :
    (relations.foldl add set).find? ends =
      (set.find? ends).or
        ((relations.find? (·.endpoints == ends)).map (·.name)) := by
  induction relations generalizing set with
  | nil => simp
  | cons relation rest induction =>
      rw [List.foldl_cons, induction, find?_add, List.find?_cons]
      by_cases same : relation.endpoints = ends
      · rw [if_pos same.symm, beq_iff_eq.mpr same]
        cases set.find? ends <;> rfl
      · rw [if_neg (Ne.symm same), beq_eq_false_iff_ne.mpr same]

theorem mem_toList_ofList_iff {relations : List Relation}
    {held relation : Relation} (same : (held == relation) = true) :
    held ∈ (ofList relations).toList ↔
      relations.find? (· == relation) = some held := by
  have named : relations.find? (·.endpoints == held.endpoints) =
      relations.find? (· == relation) := by
    rw [Relation.beq_iff_endpoints.mp same]
    rfl
  rw [mem_toList_iff, ofList, find?_foldl_add, find?_empty, Option.none_or,
    named, Option.map_eq_some_iff]
  constructor
  · rintro ⟨other, found, sameName⟩
    have equal : (other == held) = true :=
      BEq.trans (List.find?_some (p := (· == relation)) found) (BEq.symm same)
    rwa [← Relation.eq_of_beq equal sameName]
  · intro found
    exact ⟨held, found, rfl⟩

theorem ascending_toList (set : RelationSet) :
    set.toList.Pairwise fun a b => a.compare b = .lt := by
  have ends : (set.toList.map Relation.endpoints).Pairwise
      fun a b => before a b = true := by
    rw [endpoints_toList]
    exact keys_ascending set
  exact (List.pairwise_map.mp ends).imp Relation.before_iff.mp

theorem firstOfEach_ofList (relations : List Relation) :
    FirstOfEach relations (ofList relations).toList where
  ascending := (ascending_toList _).imp Relation.compare_eq_lt_iff.mp
  single relation listed := by
    obtain ⟨held, found⟩ : ∃ held,
        relations.find? (· == relation) = some held :=
      Option.isSome_iff_exists.mp
        (List.find?_isSome.mpr ⟨relation, listed, BEq.rfl⟩)
    have same : (held == relation) = true :=
      List.find?_some (p := (· == relation)) found
    refine ⟨held, ⟨(mem_toList_ofList_iff same).mpr found, same⟩, ?_⟩
    rintro other ⟨member, alike⟩
    rw [mem_toList_ofList_iff alike, found] at member
    exact (Option.some.inj member).symm
  first relation := by
    rw [mem_toList_ofList_iff BEq.rfl, List.find?_eq_some_iff_append]
    simp

example : (ofList [⟨2, 1, "c"⟩, ⟨1, 2, "a"⟩, ⟨1, 2, "b"⟩, ⟨-1, 2, ""⟩]).toList =
    [⟨-1, 2, ""⟩, ⟨1, 2, "a"⟩, ⟨2, 1, "c"⟩] := by decide

private theorem size_insertMany [Hashable Relation] [LawfulHashable Relation]
    (relations : List Relation) (hashed : Std.HashSet Relation)
    (set : RelationSet)
    (same : ∀ relation, relation ∈ hashed ↔ relation.endpoints ∈ set.keys)
    (size : hashed.size = set.size) :
    (hashed.insertMany relations).size = (relations.foldl add set).size := by
  induction relations generalizing hashed set with
  | nil => exact size
  | cons relation rest induction =>
      rw [Std.HashSet.insertMany_cons, List.foldl_cons]
      apply induction
      · intro other
        rw [Std.HashSet.mem_insert, same, add, mem_keys_insertNew,
          Relation.beq_iff_endpoints, eq_comm]
      · have held : relation ∈ hashed ↔
            set.contains relation.endpoints = true :=
          (same relation).trans contains_iff_mem_keys.symm
        simp only [Std.HashSet.size_insert, add, size_insertNew, held, size]

end RelationSet

/-- Sets of relations are equally large, in order or hashed by any hasher. -/
theorem hashedSize_eq (hasher : Hasher) (relations : List Relation) :
    hashedSize hasher relations =
      (RelationSet.ofList relations).toList.length := by
  let hashable : Hashable Relation := ⟨Relation.hashBy hasher⟩
  have lawful : LawfulHashable Relation :=
    ⟨fun _ _ same => Relation.hashBy_eq same hasher⟩
  have sizes : (Std.HashSet.ofList relations).size =
      (RelationSet.ofList relations).size := by
    rw [Std.HashSet.ofList_eq_insertMany_empty]
    exact RelationSet.size_insertMany relations ∅ .empty
      (fun _ => iff_of_false Std.HashSet.not_mem_empty List.not_mem_nil) rfl
  rw [hashedSize, sizes, RelationSet.toList, List.length_map, SortedMap.size]

namespace Relation

/-- What counts of a relation is its ends. Relations put into a set one after
the other leave there the first one of every pair of ends, in ascending order.
The order is total, and it tells apart the relations that equality, hashers and
wire records tell apart; so a set that is hashed is as large as one in order. -/
theorem identity (relations : List Relation) :
    FirstOfEach relations (RelationSet.ofList relations).toList ∧
    (∀ hasher, hashedSize hasher relations =
      (RelationSet.ofList relations).toList.length) ∧
    Std.TransCmp Relation.compare ∧
    ∀ a b : Relation,
      (a.compare b = .lt ↔ a.pre < b.pre ∨ a.pre = b.pre ∧ a.post < b.post) ∧
      (a.compare b = .eq ↔ (a == b) = true) ∧
      ((a == b) = true ↔ a.pre = b.pre ∧ a.post = b.post) ∧
      ((a == b) = true ↔ ∀ hasher, a.feed hasher = b.feed hasher) ∧
      ((a == b) = true ↔ a.toJson = b.toJson) :=
  ⟨RelationSet.firstOfEach_ofList relations, fun hasher =>
    hashedSize_eq hasher relations, inferInstance, fun _ _ =>
    ⟨compare_eq_lt_iff, Std.LawfulBEqCmp.compare_eq_iff_beq, beq_iff,
      beq_iff_feed, beq_iff_toJson⟩⟩

end Relation

end Orchestration
