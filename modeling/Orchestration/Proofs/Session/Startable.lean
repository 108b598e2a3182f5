import Mathlib.Data.Fintype.Card
import Mathlib.Data.Set.Finite.Basic
import Orchestration.Proofs.Session.Submitted

namespace Orchestration

namespace RelationSet

/-! Ways through a graph of relations. A task can start if there is a way to it
from the root. -/

/-- A task comes right before another one, by a relation that is no root. -/
def Before (ends : List Endpoints) (pre post : Int) : Prop :=
  pre ≠ rootCode ∧ ⟨pre, post⟩ ∈ ends

def Acyclic (ends : List Endpoints) : Prop :=
  ∀ code, ¬ Relation.TransGen (Before ends) code code

/-- Some chain of predecessors of the task runs into a cycle. -/
def AfterCycle (ends : List Endpoints) (code : Int) : Prop :=
  ∃ first, Relation.TransGen (Before ends) first first ∧
    Relation.ReflTransGen (Before ends) first code

def Startable (ends : List Endpoints) (code : Int) : Prop :=
  Relation.TransGen (fun pre post => ⟨pre, post⟩ ∈ ends) rootCode code

/-- The codes from which a chain leads to a code, that code included. -/
def Ancestor (codes : List Int) (ends : List Endpoints) (code : Int) : Type :=
  {first // first ∈ codes ∧ Relation.ReflTransGen (Before ends) first code}

variable {codes : List Int} {ends : List Endpoints} {code : Int}

instance : Finite (Ancestor codes ends code) :=
  Set.Finite.to_subtype ((List.finite_toSet codes).subset fun _ => And.left)

theorem acyclic_of_ascending (ascends : ∀ each ∈ ends, each.pre < each.post) :
    Acyclic ends := by
  have ascends : ∀ {first last},
      Relation.TransGen (Before ends) first last → first < last := by
    intro first last chain
    induction chain with
    | single before => exact ascends _ before.2
    | tail _ before induction => exact induction.trans (ascends _ before.2)
  intro code cycle
  exact lt_irrefl code (ascends cycle)

theorem wellFounded_ancestors (apart : ¬ AfterCycle ends code) :
    WellFounded fun a b : Ancestor codes ends code =>
      Relation.TransGen (Before ends) a.1 b.1 := by
  have transitive : IsTrans (Ancestor codes ends code) fun a b =>
      Relation.TransGen (Before ends) a.1 b.1 :=
    ⟨fun _ _ _ => Relation.TransGen.trans⟩
  have irreflexive : Std.Irrefl fun a b : Ancestor codes ends code =>
      Relation.TransGen (Before ends) a.1 b.1 :=
    ⟨fun first cycle => apart ⟨first.1, cycle, first.2.2⟩⟩
  exact Finite.wellFounded_of_trans_of_irrefl _

/-- Where some relation leads to every code, only a cycle can keep the root from
a code. -/
theorem Rooted.reached (rooted : Rooted codes ends) (listed : code ∈ codes)
    (apart : ¬ AfterCycle ends code) : Startable ends code := by
  have chain : ∀ first : Ancestor codes ends code,
      Startable ends first.1 := by
    intro first
    induction first using (wellFounded_ancestors apart).induction with
    | _ first induction =>
        obtain ⟨first, known, chain⟩ := first
        obtain ⟨⟨pre, post⟩, member, same⟩ := rooted.covered first known
        subst same
        by_cases root : pre = rootCode
        · subst root
          exact .single member
        · have before : Before ends pre post := ⟨root, member⟩
          have preKnown := (rooted.pre _ member).resolve_left root
          have start := induction ⟨pre, preKnown, .head before chain⟩
            (.single before)
          exact start.tail member
  exact chain ⟨code, listed, .refl⟩

theorem before_withRoots (set : RelationSet) (codes : List Int) :
    Before (set.withRoots codes).keys = Before set.keys := by
  funext pre post
  apply propext
  exact and_congr_right fun notRoot => mem_withRoots_of_ne notRoot

end RelationSet

namespace Session

variable {session : Session} {id : WorkflowId}

theorem relations_synthesizeRoots (present : session.hasWorkflow id) :
    ((session.synthesizeRoots id).workflow id).relations =
      (session.workflow id).relations.withRoots
        (session.workflow id).tasks.keys := by
  rw [synthesizeRoots, workflow_updateWorkflow_self present]
  rfl

theorem relationList_succeeds (session : Session) (id : WorkflowId) :
    ∃ document, ((relationList id).run session).1 = .ok document := by
  rw [relationList_run]
  split
  · exact ⟨_, rfl⟩
  · exact ⟨_, rfl⟩

/-- Once its roots are there, a task of a live workflow can be reached from the
root unless a chain of its predecessors runs into a cycle; and the list of
relations has its roots. -/
theorem startable (run : Run session) (alive : session.isAlive id) :
    (RelationSet.Acyclic (session.workflow id).relations.keys →
      ∀ code ∈ (session.workflow id).tasks.keys,
        RelationSet.Startable
          ((session.synthesizeRoots id).workflow id).relations.keys code) ∧
      (∀ code ∈ (session.workflow id).tasks.keys,
        ¬ RelationSet.Startable
            ((session.synthesizeRoots id).workflow id).relations.keys code →
          RelationSet.AfterCycle (session.workflow id).relations.keys code) ∧
      ∃ document, ((relationList id).run session).1 = .ok document ∧
        ((session.workflow id).tasks.isEmpty = false →
          ∃ relations : List Json, document = .array relations ∧
            relations.map (fun relation =>
                (relation.field? "preTaskCode",
                  relation.field? "postTaskCode")) =
              ((session.synthesizeRoots id).workflow id).relations.keys.map
                fun ends =>
                  (some (.ofInt ends.pre), some (.ofInt ends.post))) := by
  have consistent := run.consistent
  have present := consistent.present id alive
  rw [relations_synthesizeRoots present]
  have rooted := RelationSet.rooted_withRoots
    (fun each => consistent.post id each alive)
    (fun each => consistent.pre id each alive)
  have reached : ∀ code ∈ (session.workflow id).tasks.keys,
      ¬ RelationSet.AfterCycle (session.workflow id).relations.keys code →
      RelationSet.Startable ((session.workflow id).relations.withRoots
        (session.workflow id).tasks.keys).keys code := by
    intro code listed apart
    apply rooted.reached listed
    rwa [RelationSet.AfterCycle, RelationSet.before_withRoots]
  refine ⟨?_, ?_, ?_⟩
  · intro acyclic code listed
    apply reached code listed
    intro cycle
    obtain ⟨first, cycle, -⟩ := cycle
    exact acyclic first cycle
  · intro code listed
    exact not_imp_comm.mp (reached code listed)
  · obtain ⟨document, listed⟩ := relationList_succeeds session id
    exact ⟨document, listed, fun some =>
      relationList_ok present some (Prod.ext listed rfl)⟩

/-- Two tasks in a row, both reached from the root. -/
theorem startable_relinked :
    ∃ session, ∃ _ : Run session, session.isAlive ⟨0⟩ = true ∧
      RelationSet.Acyclic (session.workflow ⟨0⟩).relations.keys ∧
      RelationSet.Startable
        ((session.synthesizeRoots ⟨0⟩).workflow ⟨0⟩).relations.keys 1001 := by
  let relink := Operation.precedes ⟨0⟩ [⟨1⟩]
  have possible : relink.isPossible crossed = true := by decide +kernel
  have alive : (relink.perform crossed).isAlive ⟨0⟩ = true := by
    decide +kernel
  have acyclic : RelationSet.Acyclic
      ((relink.perform crossed).workflow ⟨0⟩).relations.keys :=
    RelationSet.acyclic_of_ascending (by decide +kernel)
  have start := (startable (Run.toCrossed.step relink possible) alive).1 acyclic
    1001 (by decide +kernel)
  exact ⟨_, Run.toCrossed.step relink possible, alive, acyclic, start⟩

end Session

end Orchestration
