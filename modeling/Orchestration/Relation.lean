import Orchestration.Json.Basic
import Orchestration.SortedMap
import Std.Data.HashSet

namespace Orchestration

/-! Dependencies between tasks, given by their codes. The code of no task
stands before tasks that depend on nothing. -/

def rootCode : Int := 0

structure Endpoints where
  pre : Int
  post : Int
deriving DecidableEq

namespace Endpoints

def compare (a b : Endpoints) : Ordering :=
  (Ord.compare a.pre b.pre).then (Ord.compare a.post b.post)

def before (a b : Endpoints) : Bool :=
  decide (a.pre < b.pre ∨ a.pre = b.pre ∧ a.post < b.post)

theorem before_irrefl (a : Endpoints) : before a a = false := by
  simp [before]

theorem before_trans {a b c : Endpoints} (h₁ : before a b = true)
    (h₂ : before b c = true) : before a c = true := by
  simp only [before, decide_eq_true_eq] at *
  omega

theorem eq_of_not_before {a b : Endpoints} (h₁ : before a b = false)
    (h₂ : before b a = false) : a = b := by
  cases a
  cases b
  simp only [before, decide_eq_false_iff_not, Endpoints.mk.injEq] at *
  omega

instance : KeyOrder Endpoints where
  before := before
  irrefl := before_irrefl
  trans := before_trans
  eq_of_not_before := eq_of_not_before

end Endpoints

/-- Makes a hash of the codes that it is fed with. -/
structure Hasher where
  State : Type
  start : State
  feed : State → Int → State
  finish : State → UInt64

namespace Hasher

def mixing : Hasher where
  State := UInt64
  start := 0
  feed state code := mixHash state (hash code)
  finish state := state

end Hasher

structure Relation where
  pre : Int
  post : Int
  name : String := ""
deriving DecidableEq

namespace Relation

def endpoints (relation : Relation) : Endpoints :=
  ⟨relation.pre, relation.post⟩

def root (post : Int) : Relation := { pre := rootCode, post := post }

def isRoot (relation : Relation) : Bool := relation.pre == rootCode

instance : BEq Relation where
  beq a b := a.endpoints == b.endpoints

def feed (relation : Relation) (hasher : Hasher) (state : hasher.State) :
    hasher.State :=
  hasher.feed (hasher.feed state relation.pre) relation.post

def hashBy (hasher : Hasher) (relation : Relation) : UInt64 :=
  hasher.finish (relation.feed hasher hasher.start)

def compare (a b : Relation) : Ordering := a.endpoints.compare b.endpoints

def toJson (relation : Relation) : Json :=
  .object [("name", .string ""), ("preTaskCode", .ofInt relation.pre),
    ("postTaskCode", .ofInt relation.post), ("preTaskVersion", .ofInt 1),
    ("postTaskVersion", .ofInt 1), ("conditionType", .ofInt 0),
    ("conditionParams", .object [])]

end Relation

/-- Relations in ascending order of their ends, each with its name. -/
abbrev RelationSet := SortedMap Endpoints String

namespace RelationSet

def add (set : RelationSet) (relation : Relation) : RelationSet :=
  set.insertNew relation.endpoints relation.name

def toList (set : RelationSet) : List Relation :=
  set.entries.map fun entry => ⟨entry.1.pre, entry.1.post, entry.2⟩

def ofList (relations : List Relation) : RelationSet :=
  relations.foldl add .empty

/-- The relations that do not touch a task. -/
def without (set : RelationSet) (code : Int) : RelationSet :=
  set.filter fun ends _ => ends.pre != code && ends.post != code

def linked (set : RelationSet) : List Int :=
  (set.toList.filter (!·.isRoot)).map (·.post)

/-- Drops roots of tasks that have a predecessor, and gives every task without
one a root. -/
def withRoots (set : RelationSet) (codes : List Int) : RelationSet :=
  let linked := set.linked
  let kept := set.filter fun ends _ =>
    ends.pre != rootCode || !linked.contains ends.post
  (codes.filter (!linked.contains ·)).foldl
    (fun set code => set.add (.root code)) kept

end RelationSet

/-- The size of a set of the relations, hashed by a hasher. -/
def hashedSize (hasher : Hasher) (relations : List Relation) : Nat :=
  let _ : Hashable Relation := ⟨Relation.hashBy hasher⟩
  (Std.HashSet.ofList relations).size

def distinctRelations (relations : List Relation) : Nat :=
  hashedSize .mixing relations

end Orchestration
