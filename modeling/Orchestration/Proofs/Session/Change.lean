import Orchestration.Proofs.Relation
import Orchestration.Proofs.Session.Move
import Orchestration.Proofs.Session.Run
import Orchestration.Proofs.Session.Submission

namespace Orchestration

open Orchestration.Action (Respects)

/-! What the operations of a run can do to tasks and workflows: calm changes,
then links or a move. -/

/-- A task without what may be set on it at any time. -/
def Task.core (task : Task) : Task :=
  { task with inputs := .empty, outputs := .empty }

namespace Session

/-- Nothing is new, no task was linked or moved, and nothing came to life. -/
structure Steady (before after : Session) : Prop where
  hasTask : ∀ id, after.hasTask id = before.hasTask id
  hasWorkflow : ∀ id, after.hasWorkflow id = before.hasWorkflow id
  alive : ∀ id, after.isAlive id → before.isAlive id
  task : ∀ id, (after.task id).core = (before.task id).core
  tasks : ∀ id, (after.workflow id).tasks = (before.workflow id).tasks
  relations : ∀ id (ends : Endpoints), ends.pre ≠ rootCode →
    (after.workflow id).relations.find? ends =
      (before.workflow id).relations.find? ends
  roots : ∀ id (code : Int),
    ⟨rootCode, code⟩ ∈ (after.workflow id).relations.keys →
      ⟨rootCode, code⟩ ∈ (before.workflow id).relations.keys ∨
        code ∈ (before.workflow id).tasks.keys

/-- The session with a new task in a workflow. -/
def enlisted (session : Session) (id : WorkflowId) (task : Task) : Session :=
  ((session.newTask task).2.addTask id (session.newTask task).1).2

/-- A change that neither links tasks nor moves them. -/
inductive Calm : Session → Session → Prop where
  | steady (steady : Steady before after) : Calm before after
  | openWorkflow (workflow : Workflow) (noTasks : workflow.tasks = .empty)
      (noRelations : workflow.relations = .empty) :
      Calm session (session.addWorkflow workflow).2
  | enlist {id : WorkflowId} {task : Task} (alive : session.isAlive id)
      (free : (session.workflow id).tasks.contains task.code = false)
      (unowned : task.workflow = none)
      (noPredecessors : task.predecessors = .empty)
      (noSuccessors : task.successors = .empty) :
      Calm session (session.enlisted id task)

/-- Any change: a calm one, a move or a link. -/
inductive Change : Session → Session → Prop where
  | calm (calm : Calm before after) : Change before after
  | move {id : WorkflowId} {task : TaskId} (alive : session.isAlive id)
      (present : session.hasTask task) :
      Change session (session.addTask id task).2
  | link {pre post : TaskId} (first : session.hasTask pre)
      (second : session.hasTask post) :
      Change session (session.link pre pre post)

theorem Steady.field {before after : Session} (steady : Steady before after)
    (field : Task → β) (kept : ∀ task, field task.core = field task)
    (id : TaskId) : field (after.task id) = field (before.task id) := by
  rw [← kept, steady.task, kept]

theorem Steady.mem_relations {before after : Session}
    (steady : Steady before after) {id : WorkflowId} {ends : Endpoints}
    (member : ends ∈ (after.workflow id).relations.keys) :
    ends ∈ (before.workflow id).relations.keys ∨
      ends.pre = rootCode ∧ ends.post ∈ (before.workflow id).tasks.keys := by
  by_cases root : ends.pre = rootCode
  · obtain ⟨pre, post⟩ := ends
    subst root
    exact (steady.roots id post member).imp_right fun listed => ⟨rfl, listed⟩
  · rw [SortedMap.mem_keys_iff, steady.relations id ends root,
      ← SortedMap.mem_keys_iff] at member
    exact .inl member

theorem SameObjects.isAlive {before after : Session}
    (same : SameObjects before after) (id : WorkflowId) :
    after.isAlive id = before.isAlive id := by
  rw [Session.isAlive, same.workflow, same.scopes, ← Session.isAlive]

theorem steady_of_sameObjects {before after : Session}
    (same : SameObjects before after) : Steady before after where
  hasTask id := by rw [hasTask, hasTask, same.tasks]
  hasWorkflow id := by rw [hasWorkflow, hasWorkflow, same.workflows]
  alive id alive := by rwa [same.isAlive] at alive
  task id := by rw [same.task]
  tasks id := by rw [same.workflow]
  relations id ends _ := by rw [same.workflow]
  roots id code member := by
    rw [same.workflow] at member
    exact .inl member

theorem steady_updateTask {session : Session} {update : Task → Task}
    (kept : ∀ task, (update task).core = task.core) (id : TaskId) :
    Steady session (session.updateTask id update) where
  hasTask := hasTask_updateTask id update
  hasWorkflow _ := rfl
  alive _ alive := alive
  task := task_updateTask_kept Task.core kept id
  tasks _ := rfl
  relations _ _ _ := rfl
  roots _ _ := .inl

private theorem alive_of_updateWorkflow {session : Session}
    {id other : WorkflowId} {update : Workflow → Workflow}
    (held : ∀ workflow, (update workflow).held = true →
      workflow.held = true ∨ session.isAlive id = true)
    (alive : (session.updateWorkflow id update).isAlive other) :
    session.isAlive other := by
  rw [isAlive, Bool.or_eq_true] at alive
  rcases alive with isHeld | inScope
  · rcases workflow_updateWorkflow_cases session id update other with
      same | ⟨rfl, same⟩
    · rw [same] at isHeld
      simp [isAlive, isHeld]
    · rw [same] at isHeld
      rcases held _ isHeld with isHeld | alive
      · simp [isAlive, isHeld]
      · exact alive
  · rw [isAlive, Bool.or_eq_true]
    exact .inr inScope

theorem steady_updateWorkflow {session : Session} {id : WorkflowId}
    {update : Workflow → Workflow}
    (held : ∀ workflow, (update workflow).held = true →
      workflow.held = true ∨ session.isAlive id = true)
    (tasks : ∀ workflow, (update workflow).tasks = workflow.tasks)
    (relations : ∀ workflow,
      (update workflow).relations = workflow.relations) :
    Steady session (session.updateWorkflow id update) where
  hasTask _ := rfl
  hasWorkflow := hasWorkflow_updateWorkflow id update
  alive _ := alive_of_updateWorkflow held
  task _ := rfl
  tasks := workflow_updateWorkflow_kept Workflow.tasks tasks id
  relations other ends _ := by
    rw [workflow_updateWorkflow_kept Workflow.relations relations]
  roots other code member := by
    rw [workflow_updateWorkflow_kept Workflow.relations relations] at member
    exact .inl member

theorem steady_synthesizeRoots (session : Session) (id : WorkflowId) :
    Steady session (session.synthesizeRoots id) where
  hasTask _ := rfl
  hasWorkflow := hasWorkflow_updateWorkflow id _
  alive _ := alive_of_updateWorkflow fun _ => .inl
  task _ := rfl
  tasks other := by
    apply workflow_updateWorkflow_kept Workflow.tasks
    exact fun _ => rfl
  relations other ends notRoot := by
    apply workflow_updateWorkflow_kept fun workflow =>
      workflow.relations.find? ends
    intro workflow
    exact RelationSet.find?_withRoots_of_ne _ _ notRoot
  roots other code member := by
    rcases workflow_updateWorkflow_cases session id Workflow.withRoots other
      with same | ⟨-, same⟩
    · rw [synthesizeRoots, same] at member
      exact .inl member
    · rw [synthesizeRoots, same, Workflow.withRoots,
        RelationSet.root_mem_withRoots_iff] at member
      exact member.2.symm

private theorem steady_scopes {session : Session} {scopes : List WorkflowId}
    (alive : ∀ id ∈ scopes, session.isAlive id) :
    Steady session { session with scopes := scopes } where
  hasTask _ := rfl
  hasWorkflow _ := rfl
  alive id aliveAfter := by
    rw [isAlive, Bool.or_eq_true, List.contains_iff_mem] at aliveAfter
    rcases aliveAfter with isHeld | inScope
    · rw [isAlive, Bool.or_eq_true]
      exact .inl isHeld
    · exact alive id inScope
  task _ := rfl
  tasks _ := rfl
  relations _ _ _ := rfl
  roots _ _ := .inl

theorem isAlive_of_inScope {session : Session} {id : WorkflowId}
    (inScope : id ∈ session.scopes) : session.isAlive id := by
  simp [isAlive, inScope]

theorem steady_enter {session : Session} {id : WorkflowId}
    (alive : session.isAlive id) : Steady session (session.enter id) := by
  apply steady_scopes
  intro other member
  rcases List.mem_cons.mp member with rfl | inScope
  · exact alive
  · exact isAlive_of_inScope inScope

theorem steady_leave (session : Session) : Steady session session.leave := by
  apply steady_scopes
  intro other member
  exact isAlive_of_inScope (List.mem_of_mem_tail member)

theorem hasTask_enlisted_iff {session : Session} {id : WorkflowId}
    {task : Task} {other : TaskId} :
    (session.enlisted id task).hasTask other ↔
      session.hasTask other ∨ other = (session.newTask task).1 := by
  rw [enlisted, hasTask_addTask, hasTask_newTask_iff]

theorem hasTask_enlisted_fst (session : Session) (id : WorkflowId)
    (task : Task) :
    (session.enlisted id task).hasTask (session.newTask task).1 :=
  hasTask_enlisted_iff.mpr (.inr rfl)

theorem Calm.hasTask {before after : Session} {id : TaskId}
    (calm : Calm before after) (present : before.hasTask id) :
    after.hasTask id := by
  cases calm with
  | steady steady => rwa [steady.hasTask]
  | openWorkflow => exact present
  | enlist => exact hasTask_enlisted_iff.mpr (.inl present)

theorem hasTask_of_calm {before after : Session} {id : TaskId}
    (calm : Relation.ReflTransGen Calm before after)
    (present : before.hasTask id) : after.hasTask id := by
  induction calm with
  | refl => exact present
  | tail _ step induction => exact step.hasTask induction

theorem calm_of_served {before after : Session}
    (served : Served before after) : Calm before after := by
  apply Calm.steady
  apply steady_of_sameObjects
  exact sameObjects_of_served (.single served)

theorem respects_of_served {action : Action α}
    (respects : Respects Served action) : Respects Calm action :=
  respects.mono fun _ _ => calm_of_served

theorem start_calm (id : WorkflowId) : Respects Calm (start id) :=
  respects_of_served (start_respects id)

theorem calm_of_looked {before after : Session}
    (looked : Looked before after) : Calm before after := by
  cases looked with
  | queried queried => exact calm_of_served queried.served
  | rooted id => exact .steady (steady_synthesizeRoots before id)

theorem respects_of_looked {action : Action α}
    (respects : Respects Looked action) : Respects Calm action :=
  respects.mono fun _ _ => calm_of_looked

theorem calm_of_coded (session : Session) (id : WorkflowId) (code : Int) :
    Calm session (session.updateWorkflow id fun workflow =>
      { workflow with code := some code }) :=
  .steady (steady_updateWorkflow (fun _ => .inl) (fun _ => rfl) fun _ => rfl)

theorem submit_calm (id : WorkflowId) : Respects Calm (submit id) :=
  submit_respects (fun _ _ => calm_of_served) (fun _ _ => calm_of_looked)
    calm_of_coded id

theorem submitAndStart_calm (id : WorkflowId) :
    Respects Calm (submitAndStart id) :=
  submitAndStart_respects (fun _ _ => calm_of_served)
    (fun _ _ => calm_of_looked) calm_of_coded id

end Session

end Orchestration
