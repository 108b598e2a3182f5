import Orchestration.Proofs.Relation
import Orchestration.Proofs.Session.Access
import Orchestration.Session.Linking

namespace Orchestration.Session

variable {session : Session} {receiver pre post : TaskId}

theorem task_remember_kept (field : Task → β)
    (kept : ∀ task predecessors successors,
      field { task with
        predecessors := predecessors
        successors := successors } = field task)
    (session : Session) (pre post task : TaskId) :
    field ((session.remember pre post).task task) =
      field (session.task task) := by
  rw [remember, task_updateTask_kept field fun other => kept other _ _,
    task_updateTask_kept field fun other => kept other _ _]

@[simp] theorem owner_remember (task : TaskId) :
    (session.remember pre post).owner task = session.owner task := by
  rw [owner, owner, task_remember_kept Task.workflow fun _ _ _ => rfl]
  rfl

theorem relationBetween_remember (first second : TaskId) :
    (session.remember pre post).relationBetween first second =
      session.relationBetween first second := by
  simp only [relationBetween, Task.relationName,
    task_remember_kept Task.code fun _ _ _ => rfl,
    task_remember_kept Task.name fun _ _ _ => rfl]

def record (session : Session) (id : WorkflowId) (relation : Relation) :
    Session :=
  session.updateWorkflow id fun workflow =>
    { workflow with relations := RelationSet.add workflow.relations relation }

theorem link_of_owned {id : WorkflowId} (first : session.owner pre = some id)
    (second : session.owner post = some id) :
    session.link pre pre post =
      (session.remember pre post).record id
        (session.relationBetween pre post) := by
  simp [link, first, second, relationBetween_remember, record]

theorem link_of_parted
    (parted : ∀ id,
      ¬ (session.owner pre = some id ∧ session.owner post = some id)) :
    session.link pre pre post = session.remember pre post := by
  simp only [link, owner_remember]
  cases first : session.owner pre with
  | none => rfl
  | some id =>
      have second : session.owner post ≠ some id := fun second =>
        parted id ⟨first, second⟩
      simp [second]

theorem link_post_eq (session : Session) (pre post : TaskId) :
    session.link post pre post = session.link pre pre post := by
  simp only [link, owner_remember]
  cases first : session.owner pre with
  | none => cases session.owner post <;> simp
  | some id =>
      cases second : session.owner post with
      | none => simp
      | some other =>
          by_cases same : other = id
          · subst same
            rfl
          · simp [same, Ne.symm same]

theorem link_cases (session : Session) (pre post : TaskId) :
    (∃ id, session.owner pre = some id ∧ session.owner post = some id ∧
      session.link pre pre post =
        (session.remember pre post).record id
          (session.relationBetween pre post)) ∨
    (∀ id, ¬ (session.owner pre = some id ∧ session.owner post = some id)) ∧
      session.link pre pre post = session.remember pre post := by
  by_cases owned : ∃ id,
      session.owner pre = some id ∧ session.owner post = some id
  · obtain ⟨id, first, second⟩ := owned
    exact .inl ⟨id, first, second, link_of_owned first second⟩
  · exact .inr ⟨not_exists.mp owned, link_of_parted (not_exists.mp owned)⟩

theorem task_link_kept (field : Task → β)
    (kept : ∀ task predecessors successors,
      field { task with
        predecessors := predecessors
        successors := successors } = field task)
    (session : Session) (pre post task : TaskId) :
    field ((session.link pre pre post).task task) =
      field (session.task task) := by
  rcases link_cases session pre post with ⟨id, -, -, same⟩ | ⟨-, same⟩
  · rw [same]
    exact task_remember_kept field kept session pre post task
  · rw [same]
    exact task_remember_kept field kept session pre post task

theorem workflow_link_kept (field : Workflow → β)
    (kept : ∀ workflow relations,
      field { workflow with relations := relations } = field workflow)
    (session : Session) (pre post : TaskId) (id : WorkflowId) :
    field ((session.link pre pre post).workflow id) =
      field (session.workflow id) := by
  rcases link_cases session pre post with ⟨owner, -, -, same⟩ | ⟨-, same⟩
  · rw [same, record,
      workflow_updateWorkflow_kept field fun workflow => kept workflow _]
    rfl
  · rw [same]
    rfl

@[simp] theorem scopes_link (session : Session) (pre post : TaskId) :
    (session.link pre pre post).scopes = session.scopes := by
  rcases link_cases session pre post with ⟨id, -, -, same⟩ | ⟨-, same⟩ <;>
    rw [same] <;> rfl

@[simp] theorem hasTask_link (session : Session) (pre post task : TaskId) :
    (session.link pre pre post).hasTask task = session.hasTask task := by
  rcases link_cases session pre post with ⟨id, -, -, same⟩ | ⟨-, same⟩ <;>
    simp [same, record, remember]

@[simp] theorem hasWorkflow_link (session : Session) (pre post : TaskId)
    (id : WorkflowId) :
    (session.link pre pre post).hasWorkflow id = session.hasWorkflow id := by
  rcases link_cases session pre post with ⟨owner, -, -, same⟩ | ⟨-, same⟩ <;>
    simp [same, record, remember]

@[simp] theorem code_link (session : Session) (pre post task : TaskId) :
    ((session.link pre pre post).task task).code = (session.task task).code :=
  task_link_kept Task.code (fun _ _ _ => rfl) session pre post task

@[simp] theorem isAlive_link (session : Session) (pre post : TaskId)
    (id : WorkflowId) :
    (session.link pre pre post).isAlive id = session.isAlive id := by
  rw [isAlive, isAlive, scopes_link,
    workflow_link_kept Workflow.held fun _ _ => rfl]

@[simp] theorem tasks_link (session : Session) (pre post : TaskId)
    (id : WorkflowId) :
    ((session.link pre pre post).workflow id).tasks =
      (session.workflow id).tasks :=
  workflow_link_kept Workflow.tasks (fun _ _ => rfl) session pre post id

@[simp] theorem relationBetween_link (session : Session)
    (pre post first second : TaskId) :
    (session.link pre pre post).relationBetween first second =
      session.relationBetween first second := by
  simp only [relationBetween, Task.relationName, code_link,
    task_link_kept Task.name fun _ _ _ => rfl]

theorem relations_link_of_owned {id : WorkflowId}
    (present : session.hasWorkflow id) (first : session.owner pre = some id)
    (second : session.owner post = some id) :
    ((session.link pre pre post).workflow id).relations =
      RelationSet.add (session.workflow id).relations
        (session.relationBetween pre post) := by
  rw [link_of_owned first second, record, workflow_updateWorkflow_self]
  · rfl
  · exact present

theorem relations_link_of_not {id : WorkflowId}
    (parted : ¬ (session.owner pre = some id ∧ session.owner post = some id)) :
    ((session.link pre pre post).workflow id).relations =
      (session.workflow id).relations := by
  rcases link_cases session pre post with
    ⟨owner, first, second, same⟩ | ⟨-, same⟩
  · have other : id ≠ owner := by
      intro equality
      subst equality
      exact parted ⟨first, second⟩
    rw [same, record, workflow_updateWorkflow_other other]
    rfl
  · rw [same]
    rfl

theorem mem_successors_link (first : session.hasTask pre) (task : TaskId)
    (code : Int) :
    code ∈ ((session.link pre pre post).task task).successors.toList ↔
      code ∈ (session.task task).successors.toList ∨
        task = pre ∧ code = (session.task post).code := by
  have remembered : ((session.link pre pre post).task task).successors =
      ((session.remember pre post).task task).successors := by
    rcases link_cases session pre post with ⟨id, -, -, same⟩ | ⟨-, same⟩
    · rw [same]
      rfl
    · rw [same]
  rw [remembered, remember, task_updateTask_kept Task.successors]
  · by_cases same : task = pre
    · subst same
      rw [task_updateTask_self first]
      simp [SortedSet.mem_toList_add, or_comm]
    · simp [task_updateTask_other same, same]
  · exact fun _ => rfl

theorem mem_predecessors_link (second : session.hasTask post) (task : TaskId)
    (code : Int) :
    code ∈ ((session.link pre pre post).task task).predecessors.toList ↔
      code ∈ (session.task task).predecessors.toList ∨
        task = post ∧ code = (session.task pre).code := by
  have remembered : ((session.link pre pre post).task task).predecessors =
      ((session.remember pre post).task task).predecessors := by
    rcases link_cases session pre post with ⟨id, -, -, same⟩ | ⟨-, same⟩
    · rw [same]
      rfl
    · rw [same]
  have untouched : ((session.updateTask pre fun other =>
      { other with
        successors :=
          SortedSet.add other.successors (session.task post).code }).task
            task).predecessors = (session.task task).predecessors := by
    apply task_updateTask_kept Task.predecessors
    exact fun _ => rfl
  rw [remembered, remember]
  by_cases same : task = post
  · subst same
    rw [task_updateTask_self (by simpa using second)]
    simp only [SortedSet.mem_toList_add, true_and]
    rw [untouched, or_comm]
  · rw [task_updateTask_other same, untouched]
    simp [same]

end Orchestration.Session
