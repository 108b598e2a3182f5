import Orchestration.Proofs.Session.Frame
import Orchestration.Proofs.Session.Naming
import Orchestration.Proofs.Session.Transfer

namespace Orchestration

/-! Scopes inside of each other: which workflow is the innermost one while they
run, and where the tasks that are built there go. -/

/-- What is done inside of a scope. Whatever comes next may depend on how builds
and inner scopes ended. -/
inductive Body where
  | finish (outcome : Except Error Unit)
  | act (operation : Operation) (plain : operation.isScoping = false)
      (next : Body)
  | build (draft : TaskDraft) (next : Except Error TaskId → Body)
  | scope (id : WorkflowId) (nested : Body) (next : Except Error Unit → Body)

namespace Body

/-- How a body ends, and the session that it leaves. -/
def run : Body → Session → Except Error Unit × Session
  | finish outcome, session => (outcome, session)
  | act operation _ next, session => next.run (operation.perform session)
  | build draft next, session =>
      let (result, after) := draft.build.run session
      (next result).run after
  | scope id nested next, session =>
      let (outcome, after) := session.within id nested.run
      (next outcome).run after

/-- Every operation is possible when its turn comes, and only workflows that are
alive get a scope. -/
def Possible : Body → Session → Prop
  | finish _, _ => True
  | act operation _ next, session =>
      operation.isPossible session = true ∧
        next.Possible (operation.perform session)
  | build draft next, session =>
      (Operation.build draft).isPossible session = true ∧
        (next (draft.build.run session).1).Possible
          (draft.build.run session).2
  | scope id nested next, session =>
      session.isAlive id = true ∧ nested.Possible (session.enter id) ∧
        (next (session.within id nested.run).1).Possible
          (session.within id nested.run).2

instance decidablePossible :
    (body : Body) → (session : Session) → Decidable (body.Possible session)
  | finish _, _ => .isTrue trivial
  | act operation _ next, session =>
      have := decidablePossible next (operation.perform session)
      inferInstanceAs (Decidable (_ ∧ _))
  | build draft next, session =>
      have := decidablePossible (next (draft.build.run session).1)
        (draft.build.run session).2
      inferInstanceAs (Decidable (_ ∧ _))
  | scope id nested next, session =>
      have := decidablePossible nested (session.enter id)
      have := decidablePossible (next (session.within id nested.run).1)
        (session.within id nested.run).2
      inferInstanceAs (Decidable (_ ∧ _ ∧ _))

/-- In the run of a body in a session, another body is what is left to do in the
innermost scope. The scopes that were begun on the way and have not ended yet
are listed with the innermost one first. -/
inductive Reaches :
    Body → Session → List WorkflowId → Body → Session → Prop where
  | here : Reaches body session [] body session
  | act {plain : operation.isScoping = false}
      (reaches : Reaches next (operation.perform session) around rest reached) :
      Reaches (.act operation plain next) session around rest reached
  | build
      (reaches : Reaches (next (draft.build.run session).1)
        (draft.build.run session).2 around rest reached) :
      Reaches (.build draft next) session around rest reached
  | inside {id : WorkflowId}
      (reaches : Reaches nested (session.enter id) around rest reached) :
      Reaches (.scope id nested next) session (around ++ [id]) rest reached
  | behind {id : WorkflowId}
      (reaches : Reaches (next (session.within id nested.run).1)
        (session.within id nested.run).2 around rest reached) :
      Reaches (.scope id nested next) session around rest reached

end Body

namespace TaskDraft

/-- Where a build puts its task: into the workflow of the draft, or else into
the innermost one in scope. Without either it does nothing but fail. -/
structure Lands (draft : TaskDraft) (innermost : Option WorkflowId)
    (session : Session) : Prop where
  homeless : draft.workflow = none → innermost = none →
    draft.build.run session =
      (.error (.parameter (.workflowRequired draft.name)), session)
  housed : ∀ id task after, (draft.workflow <|> innermost) = some id →
    draft.build.run session = (.ok task, after) →
      session.hasTask task = false ∧
        (after.task task).name = draft.name ∧
        after.owner task = some id ∧
        ∀ other, after.isAlive other →
          (after.Registered other task ↔ other = id)

end TaskDraft

namespace Session

/-- The same workflows are in scope, and the same ones are alive. -/
structure SameScopes (before after : Session) : Prop where
  scopes : after.scopes = before.scopes
  isAlive : ∀ id, after.isAlive id = before.isAlive id

variable {session before middle after : Session}

theorem SameScopes.updateWorkflow {update : Workflow → Workflow}
    (kept : ∀ workflow, (update workflow).held = workflow.held)
    (id : WorkflowId) :
    SameScopes session (session.updateWorkflow id update) where
  scopes := rfl
  isAlive other := by
    rw [Session.isAlive, workflow_updateWorkflow_kept Workflow.held kept]
    rfl

theorem frame_sameScopes : InnerFrame SameScopes where
  same objects := ⟨objects.scopes, objects.isAlive⟩
  trans first second :=
    ⟨second.scopes.trans first.scopes,
      fun id => (second.isAlive id).trans (first.isAlive id)⟩
  rooted _ id := by
    apply SameScopes.updateWorkflow
    exact fun _ => rfl
  coded _ id _ := by
    apply SameScopes.updateWorkflow
    exact fun _ => rfl
  link session pre post :=
    ⟨scopes_link session pre post, isAlive_link session pre post⟩
  newTask _ _ := ⟨rfl, fun _ => rfl⟩
  addTask session id task :=
    ⟨scopes_addTask session id task, fun _ => isAlive_addTask _⟩

theorem scopes_perform (session : Session) {operation : Operation}
    (plain : operation.isScoping = false) :
    (operation.perform session).scopes = session.scopes := by
  cases set : operation.isSetting with
  | false => exact (frame_sameScopes.perform session set plain).scopes
  | true =>
      cases operation with
      | openWorkflow draft =>
          rw [Operation.perform]
          split <;> rfl
      | hold | release | setParameter | addInput | addOutput => rfl
      | _ => cases set

theorem Consistent.perform (consistent : session.Consistent)
    {operation : Operation} (possible : operation.isPossible session = true) :
    (operation.perform session).Consistent :=
  invariant_of_changes Consistent.change consistent
    (Operation.perform_changes possible)

end Session

namespace Body

variable {body rest : Body} {session reached : Session}
  {around : List WorkflowId}

theorem scopes_within {id : WorkflowId} {nested : Body}
    (kept : ∀ session, (nested.run session).2.scopes = session.scopes)
    (session : Session) :
    (session.within id nested.run).2.scopes = session.scopes := by
  change (nested.run (session.enter id)).2.scopes.tail = session.scopes
  rw [kept]
  rfl

theorem scopes_run (body : Body) (session : Session) :
    (body.run session).2.scopes = session.scopes := by
  induction body generalizing session with
  | finish outcome => rfl
  | act operation plain next induction =>
      exact (induction _).trans (session.scopes_perform plain)
  | build draft next induction =>
      have built := Session.frame_sameScopes.build draft session
      exact (induction _ _).trans built.scopes
  | scope id nested next inside behind =>
      exact (behind _ _).trans (scopes_within inside session)

theorem Reaches.scopes (reaches : Reaches body session around rest reached) :
    reached.scopes = around ++ session.scopes := by
  induction reaches with
  | here => rfl
  | @act _ _ _ _ _ _ plain _ induction =>
      rw [induction, Session.scopes_perform _ plain]
  | build _ induction =>
      rw [induction, (Session.frame_sameScopes.build _ _).scopes]
  | inside _ induction =>
      rw [induction, List.append_assoc]
      rfl
  | behind _ induction => rw [induction, scopes_within (scopes_run _)]

theorem consistent_enter {id : WorkflowId} (consistent : session.Consistent)
    (alive : session.isAlive id = true) : (session.enter id).Consistent :=
  have possible : (Operation.enter id).isPossible session = true := alive
  consistent.perform possible

theorem consistent_leave (consistent : session.Consistent) :
    session.leave.Consistent :=
  have possible : Operation.leave.isPossible session = true := rfl
  consistent.perform possible

theorem consistent_run (consistent : session.Consistent)
    (possible : body.Possible session) : (body.run session).2.Consistent := by
  induction body generalizing session with
  | finish outcome => exact consistent
  | act operation plain next induction =>
      exact induction (consistent.perform possible.1) possible.2
  | build draft next induction =>
      exact induction _ (consistent.perform possible.1) possible.2
  | scope id nested next inside behind =>
      obtain ⟨alive, first, second⟩ := possible
      have entered := consistent_enter consistent alive
      exact behind _ (consistent_leave (inside entered first)) second

theorem Reaches.consistent
    (reaches : Reaches body session around rest reached)
    (consistent : session.Consistent) (possible : body.Possible session) :
    reached.Consistent ∧ rest.Possible reached := by
  induction reaches with
  | here => exact ⟨consistent, possible⟩
  | act _ induction =>
      exact induction (consistent.perform possible.1) possible.2
  | build _ induction =>
      exact induction (consistent.perform possible.1) possible.2
  | inside _ induction =>
      exact induction (consistent_enter consistent possible.1) possible.2.1
  | behind _ induction =>
      obtain ⟨alive, first, second⟩ := possible
      have entered := consistent_enter consistent alive
      exact induction (consistent_leave (consistent_run entered first)) second

end Body

namespace TaskDraft

variable {draft : TaskDraft} {session : Session}

theorem workflowIn_of_some {id : WorkflowId}
    (goal : (draft.workflow <|> session.scopes.head?) = some id) :
    draft.workflowIn session = .ok id := by
  rw [workflowIn, goal]

/-- The code of the new task was free, so it is the new task that the workflow
has under it, and no live workflow but this one has the task. -/
theorem lands (consistent : session.Consistent)
    (possible : (Operation.build draft).isPossible session = true) :
    draft.Lands session.scopes.head? session where
  homeless unbound outside := by
    have found : draft.workflowIn session =
        .error (.parameter (.workflowRequired draft.name)) := by
      rw [workflowIn, unbound, outside]
      rfl
    exact build_failed_iff.mpr (.homeless found)
  housed id task after goal built := by
    have found := workflowIn_of_some goal
    obtain ⟨same, kind, identity, foundSame, -, -, -, -, adds⟩ :=
      build_ok built
    obtain rfl : id = same := Except.ok.inj (found.symm.trans foundSame)
    have adds := adds (consistent.hasWorkflow_of_workflowIn possible found)
    have alive : after.isAlive id := by
      have kept := (Session.frame_sameScopes.build draft session).isAlive id
      rw [built] at kept
      rw [kept]
      exact isAlive_of_workflowIn (Bool.and_eq_true_iff.mp possible).1 found
    have afterwards : after.Consistent := by
      have performed := consistent.perform possible
      rwa [Operation.perform, built] at performed
    have registered : after.Registered id task := by
      have code : (after.task task).code = identity.code :=
        adds.new_field Task.code fun _ => rfl
      rw [Session.Registered, code, adds.tasks, if_pos rfl]
      exact SortedMap.find?_insert_self _ _ _
    have owned := (afterwards.owner_iff_registered alive).mpr registered
    refine ⟨adds.fresh, adds.new_field Task.name fun _ => rfl, owned, ?_⟩
    intro other otherAlive
    rw [← afterwards.owner_iff_registered otherAlive, owned, Option.some_inj,
      eq_comm]

end TaskDraft

namespace Body

/-- While scopes run inside of each other, the last one that was begun is the
current one, and builds without a workflow of their own go into it. Behind a
scope the current one is the one from before. -/
theorem nesting {session : Session} (run : Run session) {body : Body}
    (possible : body.Possible session) :
    (∀ around rest reached, Reaches body session around rest reached →
        reached.current = (around ++ session.scopes).head?) ∧
      (∀ around draft next reached,
        Reaches body session around (.build draft next) reached →
          draft.Lands (around ++ session.scopes).head? reached) ∧
      ∀ around id nested next reached,
        Reaches body session around (.scope id nested next) reached →
          (reached.within id nested.run).2.current = reached.current := by
  refine ⟨?_, ?_, ?_⟩
  · intro around rest reached reaches
    rw [Session.current, reaches.scopes]
  · intro around draft next reached reaches
    obtain ⟨consistent, left⟩ := reaches.consistent run.consistent possible
    rw [← reaches.scopes]
    exact draft.lands consistent left.1
  · intro around id nested next reached reaches
    rw [Session.current, scopes_within nested.scopes_run, Session.current]

/-- The first workflow is in scope again inside of the second one, where a
second task of one name ends the scope with an error. -/
def reentered : Body :=
  .scope ⟨0⟩
    (.scope ⟨1⟩
      (.scope ⟨0⟩
        (.build { name := "a", kind := .shell "" } fun built =>
          .finish (built.map fun _ => ()))
        fun outcome => .build { name := "c", kind := .shell "" } fun _ =>
          .finish outcome)
      fun outcome => .finish outcome)
    fun outcome => .build { name := "d", kind := .shell "" } fun _ =>
      .finish outcome

theorem nesting_reentered :
    reentered.Possible crossed ∧
      (∃ draft next reached,
        Reaches reentered crossed [⟨0⟩, ⟨1⟩, ⟨0⟩] (.build draft next) reached ∧
          reached.current = some ⟨0⟩ ∧
          (draft.build.run reached).1 =
            .error (.duplicateTask "a" 1000 "first")) ∧
      (∃ draft next reached after,
        Reaches reentered crossed [⟨1⟩, ⟨0⟩] (.build draft next) reached ∧
          draft.build.run reached = (.ok ⟨2⟩, after) ∧
          after.owner ⟨2⟩ = some ⟨1⟩) ∧
      (∃ draft next reached,
        Reaches reentered crossed [] (.build draft next) reached ∧
          draft.build.run reached =
            (.error (.parameter (.workflowRequired "d")), reached)) ∧
      ∃ id nested next reached,
        Reaches reentered crossed [⟨1⟩, ⟨0⟩] (.scope id nested next) reached ∧
          (reached.within id nested.run).1 =
            .error (.duplicateTask "a" 1000 "first") ∧
          (reached.within id nested.run).2.current = some ⟨1⟩ := by
  have possible : reentered.Possible crossed := by decide +kernel
  obtain ⟨current, lands, left⟩ := nesting Run.toCrossed possible
  have inSecond : Reaches reentered crossed ([] ++ [⟨1⟩] ++ [⟨0⟩]) _ _ :=
    .inside (.inside .here)
  have inFirst :
      Reaches reentered crossed ([] ++ [⟨0⟩] ++ [⟨1⟩] ++ [⟨0⟩]) _ _ :=
    .inside (.inside (.inside .here))
  have behindFirst : Reaches reentered crossed ([] ++ [⟨1⟩] ++ [⟨0⟩]) _ _ :=
    .inside (.inside (.behind .here))
  have outside : Reaches reentered crossed [] _ _ := .behind .here
  have second := lands _ _ _ _ behindFirst
  have homeless := lands _ _ _ _ outside
  refine ⟨possible,
    ⟨_, _, _, inFirst, current _ _ _ inFirst, by decide +kernel⟩,
    ⟨_, _, _, _, behindFirst, Prod.ext (by decide +kernel) rfl,
      (second.housed _ _ _ rfl (Prod.ext (by decide +kernel) rfl)).2.2.1⟩,
    ⟨_, _, _, outside, homeless.homeless rfl (by decide +kernel)⟩,
    ⟨_, _, _, _, inSecond, by decide +kernel,
      (left _ _ _ _ _ inSecond).trans (current _ _ _ inSecond)⟩⟩

end Body

end Orchestration
