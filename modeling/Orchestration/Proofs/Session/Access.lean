import Orchestration.Session.Ownership

namespace Orchestration.Session

open Gateway (Server)

variable {session : Session}

def hasTask (session : Session) (id : TaskId) : Bool :=
  id.index < session.tasks.length

def hasWorkflow (session : Session) (id : WorkflowId) : Bool :=
  id.index < session.workflows.length

def hasGateway (session : Session) (id : GatewayId) : Bool :=
  id.index < session.gateways.length

private theorem getD_modify_self {values : List α} {index : Nat}
    (bound : index < values.length) (update : α → α) (default : α) :
    (values.modify index update).getD index default =
      update (values.getD index default) := by
  simp [List.getD_eq_getElem?_getD, bound]

private theorem getD_modify_other {index other : Nat}
    (different : other ≠ index) (values : List α) (update : α → α)
    (default : α) :
    (values.modify index update).getD other default =
      values.getD other default := by
  simp [List.getD_eq_getElem?_getD, different.symm]

private theorem getD_append_other {values : List α} {other : Nat}
    (different : other ≠ values.length) (value default : α) :
    (values ++ [value]).getD other default = values.getD other default := by
  simp only [List.getD_eq_getElem?_getD, List.getElem?_append]
  split
  · rfl
  · have beyond : values.length < other := by omega
    rw [List.getElem?_eq_none (by simp; omega),
      List.getElem?_eq_none (by omega)]

theorem task_updateTask_self {id : TaskId} (present : session.hasTask id)
    (update : Task → Task) :
    (session.updateTask id update).task id = update (session.task id) :=
  getD_modify_self (of_decide_eq_true present) update default

theorem task_updateTask_other {id other : TaskId} (different : other ≠ id)
    (update : Task → Task) :
    (session.updateTask id update).task other = session.task other :=
  getD_modify_other (fun same => different (congrArg TaskId.mk same)) _ _ _

theorem task_updateTask_cases (session : Session) (id : TaskId)
    (update : Task → Task) (other : TaskId) :
    (session.updateTask id update).task other = session.task other ∨
      other = id ∧ (session.updateTask id update).task other =
        update (session.task other) := by
  by_cases same : other = id
  · subst same
    cases present : session.hasTask other with
    | true => exact .inr ⟨rfl, task_updateTask_self present update⟩
    | false =>
        have beyond : session.tasks.length ≤ other.index := by
          simpa [hasTask] using present
        rw [updateTask, List.modify_eq_self beyond]
        exact .inl rfl
  · exact .inl (task_updateTask_other same update)

theorem task_updateTask_kept (field : Task → β) {update : Task → Task}
    (kept : ∀ task, field (update task) = field task) (id other : TaskId) :
    field ((session.updateTask id update).task other) =
      field (session.task other) := by
  rcases task_updateTask_cases session id update other with same | ⟨-, same⟩
  · rw [same]
  · rw [same, kept]

@[simp] theorem task_updateWorkflow (id : WorkflowId)
    (update : Workflow → Workflow) (task : TaskId) :
    (session.updateWorkflow id update).task task = session.task task := rfl

@[simp] theorem hasTask_updateTask (id : TaskId) (update : Task → Task)
    (other : TaskId) :
    (session.updateTask id update).hasTask other = session.hasTask other := by
  simp [hasTask, updateTask]

@[simp] theorem hasTask_updateWorkflow (id : WorkflowId)
    (update : Workflow → Workflow) (task : TaskId) :
    (session.updateWorkflow id update).hasTask task = session.hasTask task :=
  rfl

theorem task_mem_tasks {id : TaskId} (present : session.hasTask id) :
    session.task id ∈ session.tasks := by
  have bound : id.index < session.tasks.length := of_decide_eq_true present
  rw [task, List.getD_eq_getElem?_getD, List.getElem?_eq_getElem bound]
  exact List.getElem_mem bound

theorem exists_of_mem_tasks {task : Task} (member : task ∈ session.tasks) :
    ∃ id, session.hasTask id ∧ session.task id = task := by
  obtain ⟨index, bound, same⟩ := List.getElem_of_mem member
  refine ⟨⟨index⟩, decide_eq_true bound, ?_⟩
  rw [Session.task, List.getD_eq_getElem?_getD, List.getElem?_eq_getElem bound]
  exact same

theorem task_absent {id : TaskId} (absent : session.hasTask id = false) :
    session.task id = default := by
  have beyond : session.tasks.length ≤ id.index := by
    simpa [hasTask] using absent
  rw [task, List.getD_eq_getElem?_getD, List.getElem?_eq_none beyond,
    Option.getD_none]

theorem task_newTask_self (session : Session) (task : Task) :
    (session.newTask task).2.task (session.newTask task).1 = task := by
  simp [newTask, Session.task]

theorem task_newTask_other {other : TaskId} {task : Task}
    (different : other ≠ (session.newTask task).1) :
    (session.newTask task).2.task other = session.task other :=
  getD_append_other (fun same => different (congrArg TaskId.mk same)) _ _

theorem hasTask_newTask_iff {task : Task} {other : TaskId} :
    (session.newTask task).2.hasTask other ↔
      session.hasTask other ∨ other = (session.newTask task).1 := by
  obtain ⟨index⟩ := other
  simp [hasTask, newTask]
  omega

@[simp] theorem hasTask_newTask_fst (session : Session) (task : Task) :
    session.hasTask (session.newTask task).1 = false := by
  simp [hasTask, newTask]

theorem workflow_updateWorkflow_self {id : WorkflowId}
    (present : session.hasWorkflow id) (update : Workflow → Workflow) :
    (session.updateWorkflow id update).workflow id =
      update (session.workflow id) :=
  getD_modify_self (of_decide_eq_true present) update default

theorem workflow_updateWorkflow_other {id other : WorkflowId}
    (different : other ≠ id) (update : Workflow → Workflow) :
    (session.updateWorkflow id update).workflow other =
      session.workflow other :=
  getD_modify_other (fun same => different (congrArg WorkflowId.mk same))
    _ _ _

theorem workflow_absent {id : WorkflowId}
    (absent : session.hasWorkflow id = false) :
    session.workflow id = default := by
  have beyond : session.workflows.length ≤ id.index := by
    simpa [hasWorkflow] using absent
  rw [workflow, List.getD_eq_getElem?_getD, List.getElem?_eq_none beyond,
    Option.getD_none]

theorem updateWorkflow_absent {id : WorkflowId}
    (absent : session.hasWorkflow id = false) (update : Workflow → Workflow) :
    session.updateWorkflow id update = session := by
  have beyond : session.workflows.length ≤ id.index := by
    simpa [hasWorkflow] using absent
  rw [updateWorkflow, List.modify_eq_self beyond]

theorem workflow_updateWorkflow_cases (session : Session) (id : WorkflowId)
    (update : Workflow → Workflow) (other : WorkflowId) :
    (session.updateWorkflow id update).workflow other =
        session.workflow other ∨
      other = id ∧ (session.updateWorkflow id update).workflow other =
        update (session.workflow other) := by
  by_cases same : other = id
  · subst same
    cases present : session.hasWorkflow other with
    | true => exact .inr ⟨rfl, workflow_updateWorkflow_self present update⟩
    | false =>
        rw [updateWorkflow_absent present]
        exact .inl rfl
  · exact .inl (workflow_updateWorkflow_other same update)

theorem workflow_updateWorkflow_kept (field : Workflow → β)
    {update : Workflow → Workflow}
    (kept : ∀ workflow, field (update workflow) = field workflow)
    (id other : WorkflowId) :
    field ((session.updateWorkflow id update).workflow other) =
      field (session.workflow other) := by
  rcases workflow_updateWorkflow_cases session id update other with
    same | ⟨-, same⟩
  · rw [same]
  · rw [same, kept]

@[simp] theorem workflow_updateTask (id : TaskId) (update : Task → Task)
    (workflow : WorkflowId) :
    (session.updateTask id update).workflow workflow =
      session.workflow workflow := rfl

@[simp] theorem hasWorkflow_updateWorkflow (id : WorkflowId)
    (update : Workflow → Workflow) (other : WorkflowId) :
    (session.updateWorkflow id update).hasWorkflow other =
      session.hasWorkflow other := by
  simp [hasWorkflow, updateWorkflow]

@[simp] theorem hasWorkflow_updateTask (id : TaskId) (update : Task → Task)
    (workflow : WorkflowId) :
    (session.updateTask id update).hasWorkflow workflow =
      session.hasWorkflow workflow := rfl

theorem workflow_addWorkflow_self (session : Session) (workflow : Workflow) :
    (session.addWorkflow workflow).2.workflow
      (session.addWorkflow workflow).1 = workflow := by
  simp [addWorkflow, Session.workflow]

theorem workflow_addWorkflow_other {other : WorkflowId} {workflow : Workflow}
    (different : other ≠ (session.addWorkflow workflow).1) :
    (session.addWorkflow workflow).2.workflow other =
      session.workflow other :=
  getD_append_other (fun same => different (congrArg WorkflowId.mk same)) _ _

theorem isAlive_addWorkflow_other {other : WorkflowId} {workflow : Workflow}
    (different : other ≠ (session.addWorkflow workflow).1) :
    (session.addWorkflow workflow).2.isAlive other =
      session.isAlive other := by
  rw [isAlive, workflow_addWorkflow_other different]
  rfl

theorem hasWorkflow_addWorkflow_iff {workflow : Workflow}
    {other : WorkflowId} :
    (session.addWorkflow workflow).2.hasWorkflow other ↔
      session.hasWorkflow other ∨ other = (session.addWorkflow workflow).1 := by
  obtain ⟨index⟩ := other
  simp [hasWorkflow, addWorkflow]
  omega

@[simp] theorem hasWorkflow_addWorkflow_fst (session : Session)
    (workflow : Workflow) :
    session.hasWorkflow (session.addWorkflow workflow).1 = false := by
  simp [hasWorkflow, addWorkflow]

theorem gateway_updateGateway_self {id : GatewayId}
    (present : session.hasGateway id) (update : Server → Server) :
    (session.updateGateway id update).gateway id =
      update (session.gateway id) :=
  getD_modify_self (of_decide_eq_true present) update default

theorem gateway_updateGateway_other {id other : GatewayId}
    (different : other ≠ id) (update : Server → Server) :
    (session.updateGateway id update).gateway other =
      session.gateway other :=
  getD_modify_other (fun same => different (congrArg GatewayId.mk same)) _ _ _

theorem updateGateway_absent {id : GatewayId}
    (absent : session.hasGateway id = false) (update : Server → Server) :
    session.updateGateway id update = session := by
  have beyond : session.gateways.length ≤ id.index := by
    simpa [hasGateway] using absent
  rw [updateGateway, List.modify_eq_self beyond]

theorem gateway_updateGateway_cases (session : Session) (id : GatewayId)
    (update : Server → Server) (other : GatewayId) :
    (session.updateGateway id update).gateway other = session.gateway other ∨
      other = id ∧ (session.updateGateway id update).gateway other =
        update (session.gateway other) := by
  by_cases same : other = id
  · subst same
    cases present : session.hasGateway other with
    | true => exact .inr ⟨rfl, gateway_updateGateway_self present update⟩
    | false =>
        rw [updateGateway_absent present]
        exact .inl rfl
  · exact .inl (gateway_updateGateway_other same update)

theorem gateway_updateGateway_kept (field : Server → β)
    {update : Server → Server}
    (kept : ∀ server, field (update server) = field server)
    (id other : GatewayId) :
    field ((session.updateGateway id update).gateway other) =
      field (session.gateway other) := by
  rcases gateway_updateGateway_cases session id update other with
    same | ⟨-, same⟩
  · rw [same]
  · rw [same, kept]

@[simp] theorem updateGateway_updateGateway (id : GatewayId)
    (first second : Server → Server) :
    (session.updateGateway id first).updateGateway id second =
      session.updateGateway id fun server => second (first server) := by
  simp only [updateGateway, List.modify_modify_eq]
  rfl

@[simp] theorem hasGateway_updateGateway (id : GatewayId)
    (update : Server → Server) (other : GatewayId) :
    (session.updateGateway id update).hasGateway other =
      session.hasGateway other := by
  simp [hasGateway, updateGateway]

theorem updateGateway_gateway (session : Session) (id : GatewayId)
    (update : Server → Server) :
    session.updateGateway id (fun _ => update (session.gateway id)) =
      session.updateGateway id update := by
  simp only [updateGateway, gateway, mk.injEq, and_true]
  apply List.ext_getElem?
  intro index
  rw [List.getElem?_modify, List.getElem?_modify,
    List.getD_eq_getElem?_getD]
  by_cases same : id.index = index
  · subst same
    cases session.gateways[id.index]? <;> simp
  · simp [same]

theorem updateGateway_self (session : Session) (id : GatewayId) :
    session.updateGateway id (fun _ => session.gateway id) = session := by
  have same := updateGateway_gateway session id fun server => server
  rw [same, updateGateway]
  exact congrArg ({ session with gateways := · })
    (List.modify_id id.index session.gateways)

theorem gateway_addGateway_self (session : Session) (server : Server) :
    (session.addGateway server).2.gateway (session.addGateway server).1 =
      server := by
  simp [addGateway, Session.gateway]

theorem gateway_addGateway_other {other : GatewayId} {server : Server}
    (different : other ≠ (session.addGateway server).1) :
    (session.addGateway server).2.gateway other = session.gateway other :=
  getD_append_other (fun same => different (congrArg GatewayId.mk same)) _ _

theorem owner_eq_some_iff {task : TaskId} {id : WorkflowId} :
    session.owner task = some id ↔
      (session.task task).workflow = some id ∧ session.isAlive id := by
  rw [owner, Option.filter_eq_some_iff]

theorem hasTask_of_owner {task : TaskId} {id : WorkflowId}
    (owned : session.owner task = some id) : session.hasTask task := by
  cases present : session.hasTask task with
  | true => rfl
  | false =>
      have attached := (owner_eq_some_iff.mp owned).1
      rw [task_absent present] at attached
      cases attached

end Orchestration.Session
