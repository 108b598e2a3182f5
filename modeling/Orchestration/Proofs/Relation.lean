import Orchestration.Proofs.SortedMap
import Orchestration.Relation

namespace Orchestration.RelationSet

open SortedMap

/-! Which relations a set holds, after each of the operations on sets. A set is
looked into by the ends of a relation; what is found there is its name. -/

theorem mem_toList_iff {set : RelationSet} {relation : Relation} :
    relation ∈ set.toList ↔
      set.find? relation.endpoints = some relation.name := by
  rw [find?_eq_some_iff, toList, List.mem_map]
  constructor
  · intro listed
    obtain ⟨⟨ends, name⟩, member, rfl⟩ := listed
    exact member
  · intro member
    exact ⟨_, member, rfl⟩

theorem endpoints_toList (set : RelationSet) :
    set.toList.map Relation.endpoints = set.keys := by
  simp [toList, keys, Relation.endpoints]

/-- A relation that is there already keeps its name. -/
theorem find?_add (set : RelationSet) (relation : Relation)
    (ends : Endpoints) :
    (set.add relation).find? ends =
      if ends = relation.endpoints then
        some ((set.find? ends).getD relation.name)
      else set.find? ends := by
  by_cases same : ends = relation.endpoints
  · subst same
    simp [add]
  · simp [add, find?_insertNew_other _ same, same]

theorem mem_toList_add {set : RelationSet} {relation added : Relation} :
    relation ∈ (set.add added).toList ↔
      relation ∈ set.toList ∨
        relation = added ∧ added.endpoints ∉ set.keys := by
  rw [mem_toList_iff, mem_toList_iff, find?_add, ← find?_eq_none_iff]
  by_cases same : relation.endpoints = added.endpoints
  · rw [if_pos same, ← same]
    have equal : relation = added ↔ added.name = relation.name := by
      cases relation
      cases added
      cases same
      simp [eq_comm]
    rw [equal]
    cases set.find? relation.endpoints <;> simp
  · have different : relation ≠ added := by
      intro equality
      subst equality
      exact same rfl
    simp [same, different]

theorem find?_without_eq_some_iff {set : RelationSet} {code : Int}
    {ends : Endpoints} {name : String} :
    (set.without code).find? ends = some name ↔
      set.find? ends = some name ∧ ends.pre ≠ code ∧ ends.post ≠ code := by
  simp [without, find?_filter_eq_some_iff]

theorem mem_linked_iff {set : RelationSet} {code : Int} :
    code ∈ set.linked ↔
      ∃ pre, pre ≠ rootCode ∧ ⟨pre, code⟩ ∈ set.keys := by
  simp only [linked, List.mem_map, List.mem_filter, mem_toList_iff,
    mem_keys_iff]
  constructor
  · intro listed
    obtain ⟨relation, ⟨found, notRoot⟩, rfl⟩ := listed
    exact ⟨relation.pre, by simpa [Relation.isRoot] using notRoot, _, found⟩
  · intro linked
    obtain ⟨pre, notRoot, name, found⟩ := linked
    exact ⟨⟨pre, code, name⟩, ⟨found, by simpa [Relation.isRoot]⟩, rfl⟩

private theorem find?_addRoots (codes : List Int) (set : RelationSet)
    (ends : Endpoints) :
    (codes.foldl (fun set code => set.add (.root code)) set).find? ends =
      if ends.pre = rootCode ∧ ends.post ∈ codes then
        some ((set.find? ends).getD "")
      else set.find? ends := by
  induction codes generalizing set with
  | nil => simp
  | cons code rest induction =>
      rw [List.foldl_cons, induction, find?_add]
      by_cases same : ends = (Relation.root code).endpoints
      · subst same
        simp [Relation.root, Relation.endpoints]
      · have notHead : ends.pre = rootCode → ends.post ≠ code := by
          intro atRoot equality
          subst equality
          exact same (congrArg (Endpoints.mk · ends.post) atRoot)
        by_cases atRoot : ends.pre = rootCode
        · simp [same, atRoot, notHead atRoot]
        · simp [same, atRoot]

theorem find?_withRoots_of_ne (set : RelationSet) (codes : List Int)
    {ends : Endpoints} (notRoot : ends.pre ≠ rootCode) :
    (set.withRoots codes).find? ends = set.find? ends := by
  rw [withRoots, find?_addRoots, if_neg fun both => notRoot both.1]
  apply Option.ext
  intro name
  simp [find?_filter_eq_some_iff, notRoot]

theorem find?_withRoots_root (set : RelationSet) (codes : List Int)
    (code : Int) :
    (set.withRoots codes).find? ⟨rootCode, code⟩ =
      if code ∈ set.linked then none
      else if code ∈ codes then some ((set.find? ⟨rootCode, code⟩).getD "")
      else set.find? ⟨rootCode, code⟩ := by
  have kept : ((set.filter fun ends _ =>
      ends.pre != rootCode || !set.linked.contains ends.post).find?
        ⟨rootCode, code⟩) =
      if code ∈ set.linked then none else set.find? ⟨rootCode, code⟩ := by
    apply Option.ext
    intro name
    by_cases linked : code ∈ set.linked <;>
      simp [find?_filter_eq_some_iff, linked]
  rw [withRoots, find?_addRoots, kept]
  by_cases linked : code ∈ set.linked <;> simp [linked]

/-- Codes without a predecessor have a root; other roots are only kept. -/
theorem root_mem_withRoots_iff {set : RelationSet} {codes : List Int}
    {code : Int} :
    ⟨rootCode, code⟩ ∈ (set.withRoots codes).keys ↔
      code ∉ set.linked ∧
        (code ∈ codes ∨ ⟨rootCode, code⟩ ∈ set.keys) := by
  rw [mem_keys_iff, mem_keys_iff, find?_withRoots_root]
  by_cases linked : code ∈ set.linked
  · simp [linked]
  · by_cases listed : code ∈ codes
    · simp [linked, listed]
    · simp [linked, listed]

theorem mem_withRoots_of_ne {set : RelationSet} {codes : List Int}
    {ends : Endpoints} (notRoot : ends.pre ≠ rootCode) :
    ends ∈ (set.withRoots codes).keys ↔ ends ∈ set.keys := by
  simp only [mem_keys_iff, find?_withRoots_of_ne set codes notRoot]

theorem linked_withRoots (set : RelationSet) (codes : List Int) (code : Int) :
    code ∈ (set.withRoots codes).linked ↔ code ∈ set.linked := by
  simp only [mem_linked_iff]
  constructor
  · intro linked
    obtain ⟨pre, notRoot, member⟩ := linked
    exact ⟨pre, notRoot, (mem_withRoots_of_ne notRoot).mp member⟩
  · intro linked
    obtain ⟨pre, notRoot, member⟩ := linked
    exact ⟨pre, notRoot, (mem_withRoots_of_ne notRoot).mpr member⟩

theorem withRoots_withRoots (set : RelationSet) (codes : List Int) :
    (set.withRoots codes).withRoots codes = set.withRoots codes := by
  apply ext_find?
  intro ends
  by_cases root : ends.pre = rootCode
  · obtain ⟨pre, code⟩ := ends
    subst root
    simp only [find?_withRoots_root, linked_withRoots]
    split_ifs <;> rfl
  · rw [find?_withRoots_of_ne _ _ root]

/-! Roots that look as if they had just been put there. They can be put there
again at any time. -/

/-- Roots have no names and lead to nothing but the given codes. -/
def PlainRoots (set : RelationSet) (codes : List Int) : Prop :=
  ∀ code name, set.find? ⟨rootCode, code⟩ = some name →
    name = "" ∧ code ∈ codes

namespace PlainRoots

variable {set other : RelationSet} {codes : List Int}

theorem empty (codes : List Int) : PlainRoots .empty codes := by
  intro code name found
  cases found

theorem withRoots (plain : PlainRoots set codes) :
    PlainRoots (set.withRoots codes) codes := by
  intro code name found
  rw [find?_withRoots_root] at found
  split_ifs at found with linked listed
  · refine ⟨?_, listed⟩
    cases held : set.find? ⟨rootCode, code⟩ with
    | none =>
        rw [held] at found
        exact (Option.some.inj found).symm
    | some text =>
        rw [held] at found
        cases found
        exact (plain code text held).1
  · exact plain code name found

theorem add (plain : PlainRoots set codes) {relation : Relation}
    (notRoot : relation.pre ≠ rootCode) :
    PlainRoots (set.add relation) codes := by
  intro code name found
  rw [find?_add, if_neg fun same => notRoot (congrArg Endpoints.pre same).symm]
    at found
  exact plain code name found

/-- If a task goes, its root goes with it. -/
theorem without (plain : PlainRoots set codes) {code : Int}
    {remaining : List Int}
    (kept : ∀ other ∈ codes, other ≠ code → other ∈ remaining) :
    PlainRoots (set.without code) remaining := by
  intro other name found
  obtain ⟨held, -, different⟩ := find?_without_eq_some_iff.mp found
  obtain ⟨unnamed, listed⟩ := plain other name held
  exact ⟨unnamed, kept other listed different⟩

theorem mono (plain : PlainRoots set codes) {more : List Int}
    (kept : ∀ code ∈ codes, code ∈ more) : PlainRoots set more := by
  intro code name found
  obtain ⟨unnamed, listed⟩ := plain code name found
  exact ⟨unnamed, kept code listed⟩

/-- Sets that differ in plain roots alone are the same once every task was given
its root. -/
theorem withRoots_congr (plain : PlainRoots set codes)
    (otherPlain : PlainRoots other codes)
    (same : ∀ ends : Endpoints, ends.pre ≠ rootCode →
      set.find? ends = other.find? ends) :
    set.withRoots codes = other.withRoots codes := by
  have linked : ∀ code, code ∈ set.linked ↔ code ∈ other.linked := by
    intro code
    rw [mem_linked_iff, mem_linked_iff]
    refine exists_congr fun pre => and_congr_right fun notRoot => ?_
    rw [mem_keys_iff, mem_keys_iff, same ⟨pre, code⟩ notRoot]
  have rooted : ∀ {set : RelationSet}, PlainRoots set codes → ∀ code,
      (set.withRoots codes).find? ⟨rootCode, code⟩ =
        if code ∈ codes ∧ code ∉ set.linked then some "" else none := by
    intro set plain code
    rw [find?_withRoots_root]
    cases held : set.find? ⟨rootCode, code⟩ with
    | none => split_ifs <;> simp_all
    | some name =>
        obtain ⟨rfl, listed⟩ := plain code name held
        split_ifs <;> simp_all
  apply ext_find?
  intro ends
  by_cases root : ends.pre = rootCode
  · obtain ⟨pre, code⟩ := ends
    subst root
    simp only [rooted plain, rooted otherPlain, linked]
  · rw [find?_withRoots_of_ne _ _ root, find?_withRoots_of_ne _ _ root,
      same ends root]

end PlainRoots

/-! Where every relation has its ends among some codes, there is a way from the
root to each of the codes once it was given its roots. -/

structure Rooted (codes : List Int) (ends : List Endpoints) : Prop where
  ascending : ends.Pairwise fun a b => KeyOrder.before a b = true
  post : ∀ each ∈ ends, each.post ∈ codes
  pre : ∀ each ∈ ends, each.pre = rootCode ∨ each.pre ∈ codes
  covered : ∀ code ∈ codes, ∃ each ∈ ends, each.post = code
  root : ∀ code ∈ codes, ⟨rootCode, code⟩ ∈ ends ↔
    ¬ ∃ each ∈ ends, each.pre ≠ rootCode ∧ each.post = code

theorem rooted_withRoots {set : RelationSet} {codes : List Int}
    (post : ∀ each ∈ set.keys, each.post ∈ codes)
    (pre : ∀ each ∈ set.keys, each.pre = rootCode ∨ each.pre ∈ codes) :
    Rooted codes (set.withRoots codes).keys where
  ascending := keys_ascending _
  post each member := by
    by_cases root : each.pre = rootCode
    · obtain ⟨first, second⟩ := each
      cases root
      obtain ⟨-, listed | kept⟩ := root_mem_withRoots_iff.mp member
      · exact listed
      · exact post _ kept
    · exact post each ((mem_withRoots_of_ne root).mp member)
  pre each member := by
    by_cases root : each.pre = rootCode
    · exact .inl root
    · exact pre each ((mem_withRoots_of_ne root).mp member)
  covered code listed := by
    by_cases linked : code ∈ set.linked
    · obtain ⟨first, notRoot, member⟩ := mem_linked_iff.mp linked
      exact ⟨⟨first, code⟩, (mem_withRoots_of_ne notRoot).mpr member, rfl⟩
    · have root := root_mem_withRoots_iff.mpr ⟨linked, .inl listed⟩
      exact ⟨⟨rootCode, code⟩, root, rfl⟩
  root code listed := by
    have linked : (∃ each ∈ (set.withRoots codes).keys,
        each.pre ≠ rootCode ∧ each.post = code) ↔ code ∈ set.linked := by
      rw [← linked_withRoots set codes, mem_linked_iff]
      constructor
      · intro ⟨⟨first, _⟩, member, notRoot, same⟩
        cases same
        exact ⟨first, notRoot, member⟩
      · intro ⟨first, notRoot, member⟩
        exact ⟨⟨first, code⟩, member, notRoot, rfl⟩
    rw [linked, root_mem_withRoots_iff]
    exact ⟨And.left, fun unlinked => ⟨unlinked, .inl listed⟩⟩

end Orchestration.RelationSet
