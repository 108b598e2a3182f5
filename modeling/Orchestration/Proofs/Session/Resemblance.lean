import Orchestration.Proofs.Session.TaskParameters
import Orchestration.Proofs.Session.Transparent

namespace Orchestration

/-! Sessions that descriptions cannot tell apart: they differ in what was called
at gateways, in the moment, and in roots that would be found anyway. -/

namespace Workflow

/-- What does not look at relations can be told once roots were found. -/
theorem field_of_rooted {workflow other : Workflow}
    (rooted : workflow.withRoots = other.withRoots) (field : Workflow → β)
    (ignores : ∀ workflow : Workflow,
      field workflow.withRoots = field workflow) :
    field workflow = field other := by
  rw [← ignores workflow, rooted, ignores]

theorem withRoots_withRoots (workflow : Workflow) :
    workflow.withRoots.withRoots = workflow.withRoots := by
  simp only [withRoots, RelationSet.withRoots_withRoots]

end Workflow

namespace Session

open Orchestration.Action (Settled)

structure Resembles (session other : Session) : Prop where
  unlogged : ∀ id, (session.gateway id).unlogged = (other.gateway id).unlogged
  rooted : ∀ id,
    (session.workflow id).withRoots = (other.workflow id).withRoots
  tasks : session.tasks = other.tasks
  scopes : session.scopes = other.scopes

namespace Resembles

variable {session other : Session} {task : TaskId}

theorem refl (session : Session) : Resembles session session :=
  ⟨fun _ => rfl, fun _ => rfl, rfl, rfl⟩

theorem trans {last : Session} (first : Resembles session other)
    (second : Resembles other last) : Resembles session last where
  unlogged id := (first.unlogged id).trans (second.unlogged id)
  rooted id := (first.rooted id).trans (second.rooted id)
  tasks := first.tasks.trans second.tasks
  scopes := first.scopes.trans second.scopes

theorem of_looked
    (looked : Relation.ReflTransGen Looked session other) :
    Resembles session other := by
  induction looked with
  | refl => exact .refl session
  | tail _ step induction =>
      refine induction.trans ?_
      cases step with
      | queried queried =>
          obtain ⟨asked, methods, -, rfl⟩ := queried
          refine ⟨fun id => ?_, fun _ => rfl, rfl, rfl⟩
          exact (gateway_updateGateway_kept Gateway.Server.unlogged
            (fun server => server.unlogged_log methods) asked id).symm
      | rooted asked =>
          refine ⟨fun _ => rfl, fun id => ?_, rfl, rfl⟩
          exact (workflow_updateWorkflow_kept Workflow.withRoots
            Workflow.withRoots_withRoots asked id).symm

theorem withNow (session : Session) (now : String) :
    Resembles session { session with now := now } :=
  ⟨fun _ => rfl, fun _ => rfl, rfl, rfl⟩

section Same

variable (same : Resembles session other)
include same

theorem task_eq (id : TaskId) : session.task id = other.task id := by
  rw [Session.task, Session.task, same.tasks]

theorem field (field : Workflow → β)
    (ignores : ∀ workflow : Workflow,
      field workflow.withRoots = field workflow) (id : WorkflowId) :
    field (session.workflow id) = field (other.workflow id) :=
  Workflow.field_of_rooted (same.rooted id) field ignores

theorem owner (id : TaskId) : session.owner id = other.owner id := by
  have held := same.field Workflow.held fun _ => rfl
  rw [Session.owner, Session.owner, same.task_eq]
  congr 1
  funext workflow
  rw [isAlive, isAlive, held, same.scopes]

theorem workerGroup (id : TaskId) :
    session.workerGroup id = other.workerGroup id := by
  have group := same.field Workflow.workerGroup fun _ => rfl
  simp only [Session.workerGroup, same.task_eq, same.owner, group]

theorem ask_pure {gateway : GatewayId} {request : Gateway.Request α}
    (lookup : request.method.isLookup) (next : α → β) :
    (Action.ask gateway request >>= fun value =>
        pure (next value)).outcome session =
      (Action.ask gateway request >>= fun value =>
        pure (next value)).outcome other := by
  have settled : ∀ session, Settled session anything
      (Action.ask gateway request) := fun _ => .ask gateway lookup trivial
  rw [(settled session).outcome_bind fun _ => .pure _,
    (settled other).outcome_bind fun _ => .pure _]
  have answer : (Action.ask gateway request).outcome session =
      (Action.ask gateway request).outcome other :=
    (Gateway.Exchange.Looks.ask lookup).agrees _ _ (same.unlogged gateway)
  rw [answer]
  rfl

theorem resourceList : (resourceList task).outcome session =
    (Session.resourceList task).outcome other := by
  have user := same.field Workflow.user fun _ => rfl
  rw [Session.resourceList, Action.outcome_read, Action.outcome_read]
  simp only [same.task_eq, same.owner, user]
  exact (ResourceReference.resolveAll_looks _ _).agrees _ _ (same.unlogged _)

theorem standardField (field : StandardField) :
    (standardField task field).outcome session =
      (Session.standardField task field).outcome other := by
  rw [outcome_standardField, outcome_standardField, same.task_eq,
    same.resourceList]

theorem kindFields : (kindFields task).outcome session =
    (Session.kindFields task).outcome other := by
  have user := same.field Workflow.user fun _ => rfl
  have project := same.field Workflow.project fun _ => rfl
  have gateway := same.field Workflow.gateway fun _ => rfl
  rw [Session.kindFields, Action.outcome_read, Action.outcome_read,
    same.task_eq]
  cases (other.task task).kind with
  | sql statement =>
      dsimp only
      rw [outcome_requireOwner, outcome_requireOwner, same.owner]
      cases other.owner task with
      | none => rfl
      | some owner =>
          dsimp only
          rw [gateway]
          exact same.ask_pure rfl _
  | subWorkflow name =>
      dsimp only
      rw [outcome_requireOwner, outcome_requireOwner, same.owner]
      cases other.owner task with
      | none => rfl
      | some owner =>
          dsimp only
          rw [gateway, user, project]
          exact same.ask_pure rfl _
  | switch choice =>
      simp only [same.task_eq]
      rfl
  | _ => rfl

theorem taskParameters : (taskParameters task).outcome session =
    (Session.taskParameters task).outcome other := by
  rw [outcome_taskParameters, outcome_taskParameters, outcome_standardFields,
    outcome_standardFields, same.task_eq, same.kindFields]
  simp only [same.standardField]

theorem environmentCode : (environmentCode task).outcome session =
    (Session.environmentCode task).outcome other := by
  rw [Session.environmentCode, Action.outcome_read, Action.outcome_read,
    same.task_eq]
  dsimp only
  split
  · exact same.ask_pure rfl _
  · rfl

theorem taskDefinition : (taskDefinition task).outcome session =
    (Session.taskDefinition task).outcome other := by
  rw [outcome_taskDefinition, outcome_taskDefinition, same.taskParameters,
    same.environmentCode]
  simp only [taskRecord, same.task_eq, same.workerGroup]

theorem definitionList (id : WorkflowId) :
    (definitionList id).outcome session =
      (Session.definitionList id).outcome other := by
  have tasks := same.field Workflow.tasks fun _ => rfl
  rw [outcome_definitionList, outcome_definitionList]
  simp only [taskIds, tasks, same.taskDefinition]

end Same

end Resembles

end Session

end Orchestration
