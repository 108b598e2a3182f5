import Orchestration.Proofs.Relation
import Orchestration.Proofs.Session.Access

namespace Orchestration.Session

/-! What it changes to put a task into a workflow: the workflow that it comes
into, the live one that it comes from, and the task itself. -/

variable {session : Session} {id : WorkflowId} {task : TaskId}

/-- The session without a task in the workflow that it is about to leave. -/
def withdraw (session : Session) (id : WorkflowId) (task : TaskId) : Session :=
  match session.owner task with
  | some previous =>
      if previous = id then session
      else session.updateWorkflow previous
        (·.withoutTask (session.task task).code)
  | none => session

theorem addTask_of_taken
    (taken : (session.workflow id).tasks.contains (session.task task).code) :
    session.addTask id task = (false, session) := by
  simp [addTask, taken]

theorem addTask_of_free
    (free : (session.workflow id).tasks.contains (session.task task).code =
      false) :
    session.addTask id task =
      (true, ((session.withdraw id task).updateWorkflow id fun workflow =>
        { workflow with
          tasks := workflow.tasks.insert (session.task task).code task }
        ).updateTask task fun task => { task with workflow := some id }) := by
  rw [addTask, withdraw]
  simp only [free]
  rfl

/-- A session after `addTask` is either the old one or one with the task put
into a workflow that had none with its code. -/
theorem addTask_cases (session : Session) (id : WorkflowId) (task : TaskId) :
    session.addTask id task = (false, session) ∨
      (session.workflow id).tasks.contains (session.task task).code = false ∧
        (session.addTask id task).1 = true := by
  cases taken :
      (session.workflow id).tasks.contains (session.task task).code with
  | true => exact .inl (addTask_of_taken taken)
  | false => exact .inr ⟨rfl, by rw [addTask_of_free taken]⟩

theorem withdraw_cases (session : Session) (id : WorkflowId) (task : TaskId) :
    session.withdraw id task = session ∨
      ∃ previous, session.owner task = some previous ∧ previous ≠ id ∧
        session.withdraw id task =
          session.updateWorkflow previous
            (·.withoutTask (session.task task).code) := by
  rw [withdraw]
  cases owned : session.owner task with
  | none => exact .inl rfl
  | some previous =>
      by_cases same : previous = id
      · exact .inl (if_pos same)
      · exact .inr ⟨previous, rfl, same, if_neg same⟩

@[simp] theorem task_withdraw (other : TaskId) :
    (session.withdraw id task).task other = session.task other := by
  rcases withdraw_cases session id task with same | ⟨previous, -, -, same⟩
  · rw [same]
  · rw [same, task_updateWorkflow]

@[simp] theorem hasTask_withdraw (other : TaskId) :
    (session.withdraw id task).hasTask other = session.hasTask other := by
  rcases withdraw_cases session id task with same | ⟨previous, -, -, same⟩
  · rw [same]
  · rw [same, hasTask_updateWorkflow]

@[simp] theorem hasWorkflow_withdraw (other : WorkflowId) :
    (session.withdraw id task).hasWorkflow other =
      session.hasWorkflow other := by
  rcases withdraw_cases session id task with same | ⟨previous, -, -, same⟩
  · rw [same]
  · rw [same, hasWorkflow_updateWorkflow]

@[simp] theorem scopes_withdraw :
    (session.withdraw id task).scopes = session.scopes := by
  rcases withdraw_cases session id task with same | ⟨previous, -, -, same⟩
  · rw [same]
  · rw [same]
    rfl

theorem workflow_withdraw_previous {previous : WorkflowId}
    (present : session.hasWorkflow previous)
    (owned : session.owner task = some previous) (other : previous ≠ id) :
    (session.withdraw id task).workflow previous =
      (session.workflow previous).withoutTask (session.task task).code := by
  simp only [withdraw, owned, if_neg other]
  exact workflow_updateWorkflow_self present _

theorem workflow_withdraw_other {other : WorkflowId}
    (stays : other = id ∨ session.owner task ≠ some other) :
    (session.withdraw id task).workflow other = session.workflow other := by
  rcases withdraw_cases session id task with
    same | ⟨previous, owned, elsewhere, same⟩
  · rw [same]
  · rw [same]
    apply workflow_updateWorkflow_other
    intro equality
    subst equality
    exact stays.elim elsewhere fun notOwner => notOwner owned

theorem workflow_withdraw_kept (field : Workflow → β)
    (kept : ∀ workflow code,
      field (workflow.withoutTask code) = field workflow)
    (other : WorkflowId) :
    field ((session.withdraw id task).workflow other) =
      field (session.workflow other) := by
  rcases withdraw_cases session id task with same | ⟨previous, -, -, same⟩
  · rw [same]
  · rw [same]
    exact workflow_updateWorkflow_kept field (fun _ => kept _ _) _ _

@[simp] theorem hasTask_addTask (other : TaskId) :
    (session.addTask id task).2.hasTask other = session.hasTask other := by
  rcases addTask_cases session id task with same | ⟨free, -⟩
  · rw [same]
  · simp [addTask_of_free free]

@[simp] theorem hasWorkflow_addTask (other : WorkflowId) :
    (session.addTask id task).2.hasWorkflow other =
      session.hasWorkflow other := by
  rcases addTask_cases session id task with same | ⟨free, -⟩
  · rw [same]
  · simp [addTask_of_free free]

@[simp] theorem isAlive_addTask (other : WorkflowId) :
    (session.addTask id task).2.isAlive other = session.isAlive other := by
  rcases addTask_cases session id task with same | ⟨free, -⟩
  · rw [same]
  · rw [addTask_of_free free, isAlive, isAlive, workflow_updateTask,
      workflow_updateWorkflow_kept Workflow.held,
      workflow_withdraw_kept Workflow.held fun _ _ => rfl]
    · congr 2
      exact scopes_withdraw
    · exact fun _ => rfl

theorem task_addTask_other {other : TaskId} (different : other ≠ task) :
    (session.addTask id task).2.task other = session.task other := by
  rcases addTask_cases session id task with same | ⟨free, -⟩
  · rw [same]
  · rw [addTask_of_free free]
    dsimp only
    rw [task_updateTask_other different]
    simp

theorem task_addTask_kept (field : Task → β)
    (kept : ∀ task owner, field { task with workflow := owner } = field task)
    (session : Session) (id : WorkflowId) (task other : TaskId) :
    field ((session.addTask id task).2.task other) =
      field (session.task other) := by
  rcases addTask_cases session id task with same | ⟨free, -⟩
  · rw [same]
  · rw [addTask_of_free free]
    dsimp only
    rw [task_updateTask_kept field fun other => kept other _]
    simp

theorem workflow_addTask_other {other : WorkflowId} (different : other ≠ id)
    (notOwner : session.owner task ≠ some other) :
    (session.addTask id task).2.workflow other = session.workflow other := by
  rcases addTask_cases session id task with same | ⟨free, -⟩
  · rw [same]
  · rw [addTask_of_free free, workflow_updateTask,
      workflow_updateWorkflow_other different,
      workflow_withdraw_other (.inr notOwner)]

section Moved

variable
  (free : (session.workflow id).tasks.contains (session.task task).code = false)
include free

theorem task_addTask_self (present : session.hasTask task) :
    (session.addTask id task).2.task task =
      { session.task task with workflow := some id } := by
  rw [addTask_of_free free]
  dsimp only
  rw [task_updateTask_self]
  · simp
  · simpa using present

theorem workflow_addTask_self (present : session.hasWorkflow id) :
    (session.addTask id task).2.workflow id =
      { session.workflow id with
        tasks := (session.workflow id).tasks.insert
          (session.task task).code task } := by
  rw [addTask_of_free free, workflow_updateTask,
    workflow_updateWorkflow_self (by simpa using present),
    workflow_withdraw_other (.inl rfl)]

theorem workflow_addTask_previous {previous : WorkflowId}
    (present : session.hasWorkflow previous)
    (owned : session.owner task = some previous) (other : previous ≠ id) :
    (session.addTask id task).2.workflow previous =
      (session.workflow previous).withoutTask (session.task task).code := by
  rw [addTask_of_free free, workflow_updateTask,
    workflow_updateWorkflow_other other,
    workflow_withdraw_previous present owned other]

end Moved

end Orchestration.Session
