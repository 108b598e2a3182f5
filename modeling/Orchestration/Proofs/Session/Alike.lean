import Orchestration.Proofs.Gateway.Lookup
import Orchestration.Proofs.Relation
import Orchestration.Proofs.Session.Access
import Orchestration.Proofs.Session.Action
import Orchestration.Session.Linking
import Orchestration.Session.Document

namespace Orchestration

open Gateway (Exchange Method Server)

/-! Objects that differ only in what describing a workflow may change: in the
logs of gateways, and in roots that can be put there again at any time. -/

namespace Workflow

/-- Roots are plain, so that nothing is lost when one is dropped and put there
again. -/
structure Alike (workflow other : Workflow) : Prop where
  plain : workflow.relations.PlainRoots workflow.tasks.keys
  otherPlain : other.relations.PlainRoots other.tasks.keys
  rest : { workflow with relations := .empty } =
    { other with relations := .empty }
  relations : ∀ ends : Endpoints, ends.pre ≠ rootCode →
    workflow.relations.find? ends = other.relations.find? ends

namespace Alike

variable {workflow other : Workflow}

theorem symm (alike : workflow.Alike other) : other.Alike workflow where
  plain := alike.otherPlain
  otherPlain := alike.plain
  rest := alike.rest.symm
  relations ends notRoot := (alike.relations ends notRoot).symm

theorem of_plain (plain : workflow.relations.PlainRoots workflow.tasks.keys) :
    workflow.Alike workflow :=
  ⟨plain, plain, rfl, fun _ _ => rfl⟩

theorem relations_only (alike : workflow.Alike other) :
    ∃ relations, other = { workflow with relations := relations } := by
  refine ⟨other.relations, ?_⟩
  calc other
      = { { other with relations := .empty } with
          relations := other.relations } := rfl
    _ = { workflow with relations := other.relations } := by
        rw [← alike.rest]

theorem field (alike : workflow.Alike other) (field : Workflow → β)
    (ignores : ∀ workflow relations,
      field { workflow with relations := relations } = field workflow) :
    field workflow = field other := by
  obtain ⟨relations, same⟩ := alike.relations_only
  rw [same]
  exact (ignores workflow relations).symm

theorem tasks (alike : workflow.Alike other) :
    workflow.tasks = other.tasks :=
  alike.field Workflow.tasks fun _ _ => rfl

theorem withRoots (alike : workflow.Alike other) :
    workflow.withRoots = other.withRoots := by
  have relations : workflow.relations.withRoots workflow.tasks.keys =
      other.relations.withRoots workflow.tasks.keys :=
    alike.plain.withRoots_congr (alike.tasks ▸ alike.otherPlain)
      alike.relations
  calc workflow.withRoots
      = { { workflow with relations := .empty } with
          relations := workflow.relations.withRoots workflow.tasks.keys } := rfl
    _ = other.withRoots := by rw [relations, alike.rest, alike.tasks]; rfl

theorem withRoots_right (alike : workflow.Alike other) :
    workflow.Alike other.withRoots where
  plain := alike.plain
  otherPlain := alike.otherPlain.withRoots
  rest := alike.rest
  relations ends notRoot := by
    rw [alike.relations ends notRoot, Workflow.withRoots,
      RelationSet.find?_withRoots_of_ne _ _ notRoot]

/-- Updates that neither look at relations nor touch them, and lose no task. -/
theorem update (alike : workflow.Alike other) {update : Workflow → Workflow}
    (ignores : ∀ workflow relations,
      update { workflow with relations := relations } =
        { update workflow with relations := relations })
    (kept : ∀ workflow, ∀ code ∈ workflow.tasks.keys,
      code ∈ (update workflow).tasks.keys) :
    (update workflow).Alike (update other) := by
  have same : ∀ workflow,
      (update workflow).relations = workflow.relations := by
    intro workflow
    have relations :=
      congrArg Workflow.relations (ignores workflow workflow.relations)
    exact relations
  refine ⟨?_, ?_, ?_, ?_⟩
  · rw [same]
    exact alike.plain.mono (kept workflow)
  · rw [same]
    exact alike.otherPlain.mono (kept other)
  · rw [← ignores, alike.rest, ignores]
  · intro ends notRoot
    rw [same, same]
    exact alike.relations ends notRoot

theorem withRelation (alike : workflow.Alike other) {relation : Relation}
    (notRoot : relation.pre ≠ rootCode) :
    Alike { workflow with relations := workflow.relations.add relation }
      { other with relations := other.relations.add relation } where
  plain := alike.plain.add notRoot
  otherPlain := alike.otherPlain.add notRoot
  rest := alike.rest
  relations ends endsNotRoot := by
    rw [RelationSet.find?_add, RelationSet.find?_add,
      alike.relations ends endsNotRoot]

theorem withoutTask (alike : workflow.Alike other) (code : Int) :
    (workflow.withoutTask code).Alike (other.withoutTask code) := by
  have kept : ∀ tasks : SortedMap Int TaskId, ∀ left ∈ tasks.keys,
      left ≠ code → left ∈ (tasks.erase code).keys := by
    intro tasks left listed different
    obtain ⟨task, found⟩ := SortedMap.mem_keys_iff.mp listed
    exact SortedMap.mem_keys_iff.mpr
      ⟨task, SortedMap.find?_erase_eq_some_iff.mpr ⟨found, different⟩⟩
  refine ⟨alike.plain.without (kept _), alike.otherPlain.without (kept _),
    ?_, ?_⟩
  · exact congrArg (Workflow.withoutTask · code) alike.rest
  · intro ends notRoot
    apply Option.ext
    intro name
    rw [Workflow.withoutTask, Workflow.withoutTask,
      RelationSet.find?_without_eq_some_iff,
      RelationSet.find?_without_eq_some_iff, alike.relations ends notRoot]

end Alike

end Workflow

namespace Session

structure Alike (session other : Session) : Prop where
  gatewayCount : session.gateways.length = other.gateways.length
  gateway : ∀ id, (session.gateway id).unlogged = (other.gateway id).unlogged
  workflowCount : session.workflows.length = other.workflows.length
  workflow : ∀ id, (session.workflow id).Alike (other.workflow id)
  tasks : session.tasks = other.tasks
  scopes : session.scopes = other.scopes
  now : session.now = other.now

namespace Alike

variable {session other : Session}

theorem symm (alike : session.Alike other) : other.Alike session where
  gatewayCount := alike.gatewayCount.symm
  gateway id := (alike.gateway id).symm
  workflowCount := alike.workflowCount.symm
  workflow id := (alike.workflow id).symm
  tasks := alike.tasks.symm
  scopes := alike.scopes.symm
  now := alike.now.symm

theorem start (now : String) : Alike { now := now } { now := now } where
  gatewayCount := rfl
  gateway _ := rfl
  workflowCount := rfl
  workflow _ := .of_plain (.empty _)
  tasks := rfl
  scopes := rfl
  now := rfl

theorem task (alike : session.Alike other) (id : TaskId) :
    session.task id = other.task id := by
  rw [Session.task, Session.task, alike.tasks]

theorem hasGateway (alike : session.Alike other) (id : GatewayId) :
    session.hasGateway id = other.hasGateway id := by
  rw [Session.hasGateway, Session.hasGateway, alike.gatewayCount]

theorem hasWorkflow (alike : session.Alike other) (id : WorkflowId) :
    session.hasWorkflow id = other.hasWorkflow id := by
  rw [Session.hasWorkflow, Session.hasWorkflow, alike.workflowCount]

theorem workflow_tasks (alike : session.Alike other) (id : WorkflowId) :
    (session.workflow id).tasks = (other.workflow id).tasks :=
  (alike.workflow id).tasks

theorem isAlive (alike : session.Alike other) :
    session.isAlive = other.isAlive := by
  funext id
  have held : (session.workflow id).held = (other.workflow id).held :=
    (alike.workflow id).field Workflow.held fun _ _ => rfl
  rw [Session.isAlive, Session.isAlive, held, alike.scopes]

theorem owner (alike : session.Alike other) (id : TaskId) :
    session.owner id = other.owner id := by
  rw [Session.owner, Session.owner, alike.task, alike.isAlive]

theorem taskIds (alike : session.Alike other) (id : WorkflowId) :
    session.taskIds id = other.taskIds id := by
  rw [Session.taskIds, Session.taskIds, alike.workflow_tasks]

theorem relationBetween (alike : session.Alike other) (pre post : TaskId) :
    session.relationBetween pre post = other.relationBetween pre post := by
  rw [Session.relationBetween, Session.relationBetween, alike.task,
    alike.task]

theorem updateGateway (alike : session.Alike other) (id : GatewayId)
    {update otherUpdate : Server → Server}
    (same : (update (session.gateway id)).unlogged =
      (otherUpdate (other.gateway id)).unlogged) :
    (session.updateGateway id update).Alike
      (other.updateGateway id otherUpdate) where
  gatewayCount := by simp [Session.updateGateway, alike.gatewayCount]
  gateway each := by
    by_cases target : each = id
    · subst target
      cases present : session.hasGateway each with
      | true =>
          rw [gateway_updateGateway_self present,
            gateway_updateGateway_self (alike.hasGateway each ▸ present), same]
      | false =>
          rw [updateGateway_absent present,
            updateGateway_absent (alike.hasGateway each ▸ present)]
          exact alike.gateway each
    · rw [gateway_updateGateway_other target,
        gateway_updateGateway_other target]
      exact alike.gateway each
  workflowCount := alike.workflowCount
  workflow := alike.workflow
  tasks := alike.tasks
  scopes := alike.scopes
  now := alike.now

theorem updateWorkflow (alike : session.Alike other) (id : WorkflowId)
    {update otherUpdate : Workflow → Workflow}
    (same : (update (session.workflow id)).Alike
      (otherUpdate (other.workflow id))) :
    (session.updateWorkflow id update).Alike
      (other.updateWorkflow id otherUpdate) where
  gatewayCount := alike.gatewayCount
  gateway := alike.gateway
  workflowCount := by simp [Session.updateWorkflow, alike.workflowCount]
  workflow each := by
    by_cases target : each = id
    · subst target
      cases present : session.hasWorkflow each with
      | true =>
          rw [workflow_updateWorkflow_self present,
            workflow_updateWorkflow_self (alike.hasWorkflow each ▸ present)]
          exact same
      | false =>
          rw [updateWorkflow_absent present,
            updateWorkflow_absent (alike.hasWorkflow each ▸ present)]
          exact alike.workflow each
    · rw [workflow_updateWorkflow_other target,
        workflow_updateWorkflow_other target]
      exact alike.workflow each
  tasks := alike.tasks
  scopes := alike.scopes
  now := alike.now

theorem updateWorkflow_ignoring (alike : session.Alike other)
    (id : WorkflowId) {update : Workflow → Workflow}
    (ignores : ∀ workflow relations,
      update { workflow with relations := relations } =
        { update workflow with relations := relations })
    (kept : ∀ workflow, ∀ code ∈ workflow.tasks.keys,
      code ∈ (update workflow).tasks.keys) :
    (session.updateWorkflow id update).Alike
      (other.updateWorkflow id update) :=
  alike.updateWorkflow id ((alike.workflow id).update ignores kept)

theorem updateTask (alike : session.Alike other) (id : TaskId)
    (update : Task → Task) :
    (session.updateTask id update).Alike (other.updateTask id update) where
  gatewayCount := alike.gatewayCount
  gateway := alike.gateway
  workflowCount := alike.workflowCount
  workflow := alike.workflow
  tasks := by rw [Session.updateTask, Session.updateTask, alike.tasks]
  scopes := alike.scopes
  now := alike.now

theorem withScopes (alike : session.Alike other) (scopes : List WorkflowId) :
    Alike { session with scopes := scopes } { other with scopes := scopes } :=
  { alike with scopes := rfl }

theorem withNow (alike : session.Alike other) (now : String) :
    Alike { session with now := now } { other with now := now } :=
  { alike with now := rfl }

theorem addGateway (alike : session.Alike other) (server : Server) :
    (session.addGateway server).2.Alike (other.addGateway server).2 where
  gatewayCount := by simp [Session.addGateway, alike.gatewayCount]
  gateway id := by
    have new : (session.addGateway server).1 = (other.addGateway server).1 :=
      congrArg GatewayId.mk alike.gatewayCount
    by_cases target : id = (other.addGateway server).1
    · subst target
      rw [gateway_addGateway_self, ← new, gateway_addGateway_self]
    · rw [gateway_addGateway_other target,
        gateway_addGateway_other (new ▸ target)]
      exact alike.gateway id
  workflowCount := alike.workflowCount
  workflow := alike.workflow
  tasks := alike.tasks
  scopes := alike.scopes
  now := alike.now

theorem addWorkflow (alike : session.Alike other) {workflow : Workflow}
    (plain : workflow.relations.PlainRoots workflow.tasks.keys) :
    (session.addWorkflow workflow).2.Alike
      (other.addWorkflow workflow).2 where
  gatewayCount := alike.gatewayCount
  gateway := alike.gateway
  workflowCount := by simp [Session.addWorkflow, alike.workflowCount]
  workflow id := by
    have new : (session.addWorkflow workflow).1 =
        (other.addWorkflow workflow).1 :=
      congrArg WorkflowId.mk alike.workflowCount
    by_cases target : id = (other.addWorkflow workflow).1
    · subst target
      rw [workflow_addWorkflow_self, ← new, workflow_addWorkflow_self]
      exact .of_plain plain
    · rw [workflow_addWorkflow_other target,
        workflow_addWorkflow_other (new ▸ target)]
      exact alike.workflow id
  tasks := alike.tasks
  scopes := alike.scopes
  now := alike.now

theorem newTask (alike : session.Alike other) (task : Task) :
    (session.newTask task).1 = (other.newTask task).1 ∧
      (session.newTask task).2.Alike (other.newTask task).2 := by
  refine ⟨?_, { alike with tasks := ?_ }⟩
  · rw [Session.newTask, Session.newTask, alike.tasks]
  · rw [Session.newTask, Session.newTask, alike.tasks]

theorem synthesizeRoots_right (alike : session.Alike other)
    (id : WorkflowId) : session.Alike (other.synthesizeRoots id) where
  gatewayCount := alike.gatewayCount
  gateway := alike.gateway
  workflowCount := by
    simp [Session.synthesizeRoots, Session.updateWorkflow, alike.workflowCount]
  workflow each := by
    rcases workflow_updateWorkflow_cases other id Workflow.withRoots each with
      same | ⟨-, same⟩
    · rw [synthesizeRoots, same]
      exact alike.workflow each
    · rw [synthesizeRoots, same]
      exact (alike.workflow each).withRoots_right
  tasks := alike.tasks
  scopes := alike.scopes
  now := alike.now

theorem log_right (alike : session.Alike other) (id : GatewayId)
    (methods : List Method) :
    session.Alike (other.updateGateway id (·.log methods)) where
  gatewayCount := by
    simp [Session.updateGateway, alike.gatewayCount]
  gateway each := by
    rw [gateway_updateGateway_kept Server.unlogged fun server =>
      server.unlogged_log methods]
    exact alike.gateway each
  workflowCount := alike.workflowCount
  workflow := alike.workflow
  tasks := alike.tasks
  scopes := alike.scopes
  now := alike.now

theorem synthesizeRoots (alike : session.Alike other) (id : WorkflowId) :
    (session.synthesizeRoots id).workflow id =
      (other.synthesizeRoots id).workflow id := by
  rw [Session.synthesizeRoots, Session.synthesizeRoots]
  cases present : session.hasWorkflow id with
  | true =>
      rw [workflow_updateWorkflow_self present,
        workflow_updateWorkflow_self (alike.hasWorkflow id ▸ present)]
      exact (alike.workflow id).withRoots
  | false =>
      have absent := alike.hasWorkflow id ▸ present
      rw [updateWorkflow_absent present, updateWorkflow_absent absent,
        workflow_absent present, workflow_absent absent]

end Alike

end Session

end Orchestration
