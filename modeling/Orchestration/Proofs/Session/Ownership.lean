import Orchestration.Proofs.Session.Perform

namespace Orchestration

open SortedMap

namespace Session

/-! Who owns a task is written down twice: the workflow has the task under its
code, and the task knows the workflow. -/

/-- The two records agree as far as workflows are alive. Tasks may still be
listed by workflows that are gone. -/
structure Consistent (session : Session) : Prop where
  present : ∀ id, session.isAlive id → session.hasWorkflow id
  attached : ∀ task id, (session.task task).workflow = some id →
    session.hasTask task ∧ session.hasWorkflow id
  listed : ∀ id code task, session.isAlive id →
    (session.workflow id).tasks.find? code = some task →
    (session.task task).code = code ∧ (session.task task).workflow = some id
  owned : ∀ id task, session.isAlive id →
    (session.task task).workflow = some id → session.Registered id task
  post : ∀ id ends, session.isAlive id →
    ends ∈ (session.workflow id).relations.keys →
    ends.post ∈ (session.workflow id).tasks.keys
  pre : ∀ id ends, session.isAlive id →
    ends ∈ (session.workflow id).relations.keys →
    ends.pre = rootCode ∨ ends.pre ∈ (session.workflow id).tasks.keys

variable {session : Session} {id : WorkflowId} {task : TaskId}

namespace Consistent

theorem hasTask_of_listed (consistent : Consistent session)
    (alive : session.isAlive id) {code : Int}
    (listed : (session.workflow id).tasks.find? code = some task) :
    session.hasTask task := by
  have attached := (consistent.listed id code task alive listed).2
  exact (consistent.attached task id attached).1

theorem owner_iff_registered (consistent : Consistent session)
    (alive : session.isAlive id) :
    session.owner task = some id ↔ session.Registered id task := by
  rw [owner_eq_some_iff]
  constructor
  · intro owned
    obtain ⟨attached, -⟩ := owned
    exact consistent.owned id task alive attached
  · intro registered
    exact ⟨(consistent.listed id _ task alive registered).2, alive⟩

theorem listed_unique (consistent : Consistent session) {other : WorkflowId}
    {code otherCode : Int} (alive : session.isAlive id)
    (otherAlive : session.isAlive other)
    (listed : (session.workflow id).tasks.find? code = some task)
    (otherListed :
      (session.workflow other).tasks.find? otherCode = some task) :
    other = id ∧ otherCode = code := by
  obtain ⟨rfl, attached⟩ := consistent.listed id code task alive listed
  obtain ⟨rfl, otherAttached⟩ :=
    consistent.listed other otherCode task otherAlive otherListed
  rw [attached] at otherAttached
  cases otherAttached
  exact ⟨rfl, rfl⟩

end Consistent

theorem consistent_start (now : String) : Consistent { now := now } where
  present _ alive := by cases alive
  attached _ _ attached := by cases attached
  listed _ _ _ alive := by cases alive
  owned _ _ alive := by cases alive
  post _ _ alive := by cases alive
  pre _ _ alive := by cases alive

theorem Consistent.steady {before after : Session}
    (consistent : Consistent before) (steady : Steady before after) :
    Consistent after where
  present id alive := by
    rw [steady.hasWorkflow]
    exact consistent.present id (steady.alive id alive)
  attached task id attached := by
    rw [steady.field Task.workflow fun _ => rfl] at attached
    rw [steady.hasTask, steady.hasWorkflow]
    exact consistent.attached task id attached
  listed id code task alive listed := by
    rw [steady.tasks] at listed
    rw [steady.field Task.workflow fun _ => rfl,
      steady.field Task.code fun _ => rfl]
    exact consistent.listed id code task (steady.alive id alive) listed
  owned id task alive attached := by
    rw [steady.field Task.workflow fun _ => rfl] at attached
    rw [Registered, steady.tasks, steady.field Task.code fun _ => rfl]
    exact consistent.owned id task (steady.alive id alive) attached
  post id ends alive member := by
    rw [steady.tasks]
    rcases steady.mem_relations member with kept | ⟨-, listed⟩
    · exact consistent.post id ends (steady.alive id alive) kept
    · exact listed
  pre id ends alive member := by
    rw [steady.tasks]
    rcases steady.mem_relations member with kept | ⟨root, -⟩
    · exact consistent.pre id ends (steady.alive id alive) kept
    · exact .inl root

theorem Consistent.addWorkflow (consistent : Consistent session)
    {workflow : Workflow} (noTasks : workflow.tasks = .empty)
    (noRelations : workflow.relations = .empty) :
    Consistent (session.addWorkflow workflow).2 := by
  have split : ∀ id, (session.addWorkflow workflow).2.isAlive id →
      id = (session.addWorkflow workflow).1 ∧
          (session.addWorkflow workflow).2.workflow id = workflow ∨
        session.isAlive id ∧
          (session.addWorkflow workflow).2.workflow id =
            session.workflow id := by
    intro id alive
    by_cases new : id = (session.addWorkflow workflow).1
    · subst new
      exact .inl ⟨rfl, workflow_addWorkflow_self session workflow⟩
    · rw [isAlive_addWorkflow_other new] at alive
      exact .inr ⟨alive, workflow_addWorkflow_other new⟩
  refine ⟨?_, ?_, ?_, ?_, ?_, ?_⟩
  · intro id alive
    rw [hasWorkflow_addWorkflow_iff]
    rcases split id alive with ⟨new, -⟩ | ⟨alive, -⟩
    · exact .inr new
    · exact .inl (consistent.present id alive)
  · intro task id attached
    obtain ⟨hasTask, hasWorkflow⟩ := consistent.attached task id attached
    exact ⟨hasTask, hasWorkflow_addWorkflow_iff.mpr (.inl hasWorkflow)⟩
  · intro id code task alive listed
    rcases split id alive with ⟨-, new⟩ | ⟨alive, old⟩
    · rw [new, noTasks] at listed
      cases listed
    · rw [old] at listed
      exact consistent.listed id code task alive listed
  · intro id task alive attached
    rcases split id alive with ⟨new, -⟩ | ⟨alive, old⟩
    · have present := (consistent.attached task id attached).2
      rw [new, hasWorkflow_addWorkflow_fst] at present
      cases present
    · rw [Registered, old]
      exact consistent.owned id task alive attached
  · intro id ends alive member
    rcases split id alive with ⟨-, new⟩ | ⟨alive, old⟩
    · rw [new, noRelations] at member
      cases member
    · rw [old] at member ⊢
      exact consistent.post id ends alive member
  · intro id ends alive member
    rcases split id alive with ⟨-, new⟩ | ⟨alive, old⟩
    · rw [new, noRelations] at member
      cases member
    · rw [old] at member ⊢
      exact consistent.pre id ends alive member

theorem Consistent.newTask (consistent : Consistent session) {task : Task}
    (unowned : task.workflow = none) :
    Consistent (session.newTask task).2 := by
  have old : ∀ other id, (session.task other).workflow = some id →
      (session.newTask task).2.task other = session.task other := by
    intro other id attached
    apply task_newTask_other
    intro equality
    subst equality
    have present := (consistent.attached _ id attached).1
    simp at present
  have attached : ∀ other id,
      ((session.newTask task).2.task other).workflow = some id →
        (session.task other).workflow = some id := by
    intro other id attached
    by_cases new : other = (session.newTask task).1
    · subst new
      rw [task_newTask_self, unowned] at attached
      cases attached
    · rwa [task_newTask_other new] at attached
  exact {
    present := consistent.present
    attached := by
      intro other id attachedAfter
      have before := attached other id attachedAfter
      obtain ⟨hasTask, hasWorkflow⟩ := consistent.attached other id before
      exact ⟨hasTask_newTask_iff.mpr (.inl hasTask), hasWorkflow⟩
    listed := by
      intro id code other alive listed
      have before := consistent.listed id code other alive listed
      rwa [old other id before.2]
    owned := by
      intro id other alive attachedAfter
      have before := attached other id attachedAfter
      rw [Registered, old other id before]
      exact consistent.owned id other alive before
    post := consistent.post
    pre := consistent.pre }

@[simp] theorem relationBetween_addTask (session : Session) (id : WorkflowId)
    (task pre post : TaskId) :
    (session.addTask id task).2.relationBetween pre post =
      session.relationBetween pre post := by
  simp only [relationBetween, Task.relationName,
    task_addTask_kept Task.code fun _ _ => rfl,
    task_addTask_kept Task.name fun _ _ => rfl]

section Moved

variable (consistent : Consistent session)
  (free : (session.workflow id).tasks.contains (session.task task).code = false)
include consistent free

theorem listed_addTask_iff {other : WorkflowId} (alive : session.isAlive other)
    {code : Int} {found : TaskId} :
    ((session.addTask id task).2.workflow other).tasks.find? code =
        some found ↔
      other = id ∧ code = (session.task task).code ∧ found = task ∨
        found ≠ task ∧
          (session.workflow other).tasks.find? code = some found := by
  have unlisted : (session.workflow id).tasks.find? (session.task task).code =
      none := by
    simpa [contains] using free
  by_cases target : other = id
  · subst target
    rw [workflow_addTask_self free (consistent.present other alive)]
    by_cases same : code = (session.task task).code
    · subst same
      simp [unlisted, eq_comm]
    · simp only [find?_insert_other _ same, same, false_and, and_false,
        false_or]
      refine ⟨fun listed => ⟨?_, listed⟩, And.right⟩
      intro equality
      subst equality
      exact same (consistent.listed other code found alive listed).1.symm
  · simp only [target, false_and, false_or]
    by_cases owned : session.owner task = some other
    · have registered := (consistent.owner_iff_registered alive).mp owned
      rw [workflow_addTask_previous free (consistent.present other alive) owned
        target, Workflow.withoutTask, find?_erase_eq_some_iff, and_comm]
      refine and_congr_left fun listed => not_congr ?_
      constructor
      · intro equality
        subst equality
        rw [Registered, listed] at registered
        exact Option.some.inj registered
      · intro equality
        subst equality
        exact (consistent.listed other code found alive listed).1.symm
    · rw [workflow_addTask_other target owned]
      refine ⟨fun listed => ⟨?_, listed⟩, And.right⟩
      intro equality
      subst equality
      have attached := (consistent.listed other code found alive listed).2
      exact owned (owner_eq_some_iff.mpr ⟨attached, alive⟩)

theorem registered_addTask_iff {other : WorkflowId}
    (alive : session.isAlive other) {found : TaskId} :
    (session.addTask id task).2.Registered other found ↔
      other = id ∧ found = task ∨
        found ≠ task ∧ session.Registered other found := by
  rw [Registered, listed_addTask_iff consistent free alive,
    task_addTask_kept Task.code fun _ _ => rfl]
  refine or_congr (and_congr_right fun _ => ?_) Iff.rfl
  refine ⟨And.right, fun same => ⟨?_, same⟩⟩
  rw [same]

theorem relations_addTask_iff {other : WorkflowId}
    (alive : session.isAlive other) {ends : Endpoints} {name : String} :
    ((session.addTask id task).2.workflow other).relations.find? ends =
        some name ↔
      (session.workflow other).relations.find? ends = some name ∧
        (session.Registered other task →
          ends.pre ≠ (session.task task).code ∧
            ends.post ≠ (session.task task).code) := by
  by_cases target : other = id
  · subst target
    have unregistered : ¬ session.Registered other task := by
      intro registered
      simp [Registered, contains] at registered free
      simp [registered] at free
    rw [workflow_addTask_self free (consistent.present other alive)]
    simp [unregistered]
  · rw [← consistent.owner_iff_registered alive]
    by_cases owned : session.owner task = some other
    · rw [workflow_addTask_previous free (consistent.present other alive) owned
        target, Workflow.withoutTask, RelationSet.find?_without_eq_some_iff]
      simp [owned]
    · rw [workflow_addTask_other target owned]
      simp [owned]

private theorem key_addTask {other : WorkflowId}
    (alive : session.isAlive other) {code : Int}
    (listed : code ∈ (session.workflow other).tasks.keys)
    (stays : session.Registered other task →
      code ≠ (session.task task).code) :
    code ∈ ((session.addTask id task).2.workflow other).tasks.keys := by
  obtain ⟨found, listed⟩ := mem_keys_iff.mp listed
  refine mem_keys_iff.mpr ⟨found, ?_⟩
  rw [listed_addTask_iff consistent free alive]
  refine .inr ⟨?_, listed⟩
  intro equality
  subst equality
  have same := (consistent.listed other code found alive listed).1
  subst same
  exact stays listed rfl

theorem Consistent.addTask_of_free (alive : session.isAlive id)
    (present : session.hasTask task) :
    Consistent (session.addTask id task).2 where
  present other alive := by
    rw [isAlive_addTask] at alive
    rw [hasWorkflow_addTask]
    exact consistent.present other alive
  attached other owner attached := by
    rw [hasTask_addTask, hasWorkflow_addTask]
    by_cases moved : other = task
    · subst moved
      rw [task_addTask_self free present] at attached
      cases attached
      exact ⟨present, consistent.present id alive⟩
    · rw [task_addTask_other moved] at attached
      exact consistent.attached other owner attached
  listed other code found alive listed := by
    rw [isAlive_addTask] at alive
    rw [task_addTask_kept Task.code fun _ _ => rfl]
    rcases (listed_addTask_iff consistent free alive).mp listed with
      ⟨rfl, rfl, rfl⟩ | ⟨different, before⟩
    · exact ⟨rfl, congrArg Task.workflow (task_addTask_self free present)⟩
    · rw [task_addTask_other different]
      exact consistent.listed other code found alive before
  owned other found alive attached := by
    rw [isAlive_addTask] at alive
    rw [registered_addTask_iff consistent free alive]
    by_cases moved : found = task
    · subst moved
      rw [task_addTask_self free present] at attached
      cases attached
      exact .inl ⟨rfl, rfl⟩
    · rw [task_addTask_other moved] at attached
      exact .inr ⟨moved, consistent.owned other found alive attached⟩
  post other ends alive member := by
    rw [isAlive_addTask] at alive
    obtain ⟨name, found⟩ := mem_keys_iff.mp member
    obtain ⟨before, apart⟩ :=
      (relations_addTask_iff consistent free alive).mp found
    apply key_addTask consistent free alive
    · exact consistent.post other ends alive (mem_keys_iff.mpr ⟨_, before⟩)
    · exact fun registered => (apart registered).2
  pre other ends alive member := by
    rw [isAlive_addTask] at alive
    obtain ⟨name, found⟩ := mem_keys_iff.mp member
    obtain ⟨before, apart⟩ :=
      (relations_addTask_iff consistent free alive).mp found
    refine (consistent.pre other ends alive
      (mem_keys_iff.mpr ⟨_, before⟩)).imp_right fun listed => ?_
    apply key_addTask consistent free alive listed
    exact fun registered => (apart registered).1

end Moved

theorem Consistent.addTask (consistent : Consistent session)
    (alive : session.isAlive id) (present : session.hasTask task) :
    Consistent (session.addTask id task).2 := by
  rcases addTask_cases session id task with same | ⟨free, -⟩
  · rw [same]
    exact consistent
  · exact consistent.addTask_of_free free alive present

@[simp] theorem registered_link (session : Session) (pre post task : TaskId)
    (id : WorkflowId) :
    (session.link pre pre post).Registered id task ↔
      session.Registered id task := by
  rw [Registered, tasks_link, code_link, ← Registered]

/-- A link of two tasks of a live workflow becomes a relation of it. -/
theorem Consistent.relations_link_cases (consistent : Consistent session)
    (alive : session.isAlive id) (pre post : TaskId) :
    (session.Registered id pre ∧ session.Registered id post) ∧
        ((session.link pre pre post).workflow id).relations =
          RelationSet.add (session.workflow id).relations
            (session.relationBetween pre post) ∨
      ¬ (session.Registered id pre ∧ session.Registered id post) ∧
        ((session.link pre pre post).workflow id).relations =
          (session.workflow id).relations := by
  rw [← consistent.owner_iff_registered alive,
    ← consistent.owner_iff_registered alive]
  by_cases shared : session.owner pre = some id ∧ session.owner post = some id
  · have present := consistent.present id alive
    exact .inl ⟨shared, relations_link_of_owned present shared.1 shared.2⟩
  · exact .inr ⟨shared, relations_link_of_not shared⟩

private theorem mem_relations_link (consistent : Consistent session)
    (alive : session.isAlive id) {pre post : TaskId} {ends : Endpoints}
    (member : ends ∈ ((session.link pre pre post).workflow id).relations.keys) :
    ends ∈ (session.workflow id).relations.keys ∨
      ends.pre ∈ (session.workflow id).tasks.keys ∧
        ends.post ∈ (session.workflow id).tasks.keys := by
  rcases consistent.relations_link_cases alive pre post with
    ⟨⟨first, second⟩, added⟩ | ⟨-, same⟩
  · rw [added, mem_keys_iff] at member
    obtain ⟨name, found⟩ := member
    rw [RelationSet.find?_add] at found
    split at found
    next same =>
      subst same
      exact .inr ⟨mem_keys_iff.mpr ⟨pre, first⟩,
        mem_keys_iff.mpr ⟨post, second⟩⟩
    · exact .inl (mem_keys_iff.mpr ⟨name, found⟩)
  · rw [same] at member
    exact .inl member

theorem Consistent.link (consistent : Consistent session)
    (pre post : TaskId) : Consistent (session.link pre pre post) where
  present id alive := by
    rw [isAlive_link] at alive
    rw [hasWorkflow_link]
    exact consistent.present id alive
  attached task id attached := by
    rw [task_link_kept Task.workflow fun _ _ _ => rfl] at attached
    rw [hasTask_link, hasWorkflow_link]
    exact consistent.attached task id attached
  listed id code task alive listed := by
    rw [isAlive_link] at alive
    rw [tasks_link] at listed
    rw [code_link, task_link_kept Task.workflow fun _ _ _ => rfl]
    exact consistent.listed id code task alive listed
  owned id task alive attached := by
    rw [isAlive_link] at alive
    rw [task_link_kept Task.workflow fun _ _ _ => rfl] at attached
    rw [Registered, code_link, tasks_link]
    exact consistent.owned id task alive attached
  post id ends alive member := by
    rw [isAlive_link] at alive
    rw [tasks_link]
    rcases mem_relations_link consistent alive member with old | ⟨-, listed⟩
    · exact consistent.post id ends alive old
    · exact listed
  pre id ends alive member := by
    rw [isAlive_link] at alive
    rw [tasks_link]
    rcases mem_relations_link consistent alive member with old | ⟨listed, -⟩
    · exact consistent.pre id ends alive old
    · exact .inr listed

@[simp] theorem registered_linkAll (session : Session)
    (pairs : List (TaskId × TaskId)) (id : WorkflowId) (task : TaskId) :
    (session.linkAll pairs).Registered id task ↔
      session.Registered id task := by
  induction pairs generalizing session with
  | nil => rfl
  | cons pair rest induction =>
      rw [linkAll_cons, induction, registered_link]

theorem Consistent.change {before after : Session}
    (consistent : Consistent before) (change : Change before after) :
    Consistent after := by
  cases change with
  | calm calm =>
      cases calm with
      | steady steady => exact consistent.steady steady
      | openWorkflow workflow noTasks noRelations =>
          exact consistent.addWorkflow noTasks noRelations
      | enlist alive free unowned =>
          apply (consistent.newTask unowned).addTask alive
          exact hasTask_newTask_iff.mpr (.inr rfl)
  | move alive present => exact consistent.addTask alive present
  | link => exact consistent.link _ _

end Session

theorem Run.consistent (run : Run session) : session.Consistent :=
  run.invariant Session.consistent_start Session.Consistent.change

namespace Session

theorem Consistent.hasWorkflow_of_workflowIn (consistent : session.Consistent)
    {draft : TaskDraft} {id : WorkflowId}
    (possible : (Operation.build draft).isPossible session = true)
    (found : draft.workflowIn session = .ok id) : session.hasWorkflow id := by
  obtain ⟨alive, -⟩ := Bool.and_eq_true_iff.mp possible
  exact consistent.present id (TaskDraft.isAlive_of_workflowIn alive found)

/-- In every live workflow, the tasks that are registered there are those whose
workflow it is; none of them is registered in another live workflow, and the
relations are between them or come from the root. -/
theorem ownership (run : Run session) {id : WorkflowId}
    (alive : session.isAlive id) :
    (∀ task, session.owner task = some id ↔ session.Registered id task) ∧
      (∀ task code other otherCode, session.isAlive other →
        (session.workflow id).tasks.find? code = some task →
        (session.workflow other).tasks.find? otherCode = some task →
        other = id ∧ otherCode = code) ∧
      ∀ relation ∈ (session.workflow id).relations.toList,
        relation.post ∈ (session.workflow id).tasks.keys ∧
          (relation.pre = rootCode ∨
            relation.pre ∈ (session.workflow id).tasks.keys) := by
  have consistent := run.consistent
  refine ⟨fun task => consistent.owner_iff_registered alive, ?_, ?_⟩
  · intro task code other otherCode otherAlive listed otherListed
    exact consistent.listed_unique alive otherAlive listed otherListed
  · intro relation member
    have member : relation.endpoints ∈ (session.workflow id).relations.keys :=
      mem_keys_iff.mpr ⟨_, RelationSet.mem_toList_iff.mp member⟩
    exact ⟨consistent.post id _ alive member, consistent.pre id _ alive member⟩

theorem ownership_crossed :
    crossed.isAlive ⟨0⟩ = true ∧ crossed.Registered ⟨0⟩ ⟨1⟩ ∧
      crossed.owner ⟨1⟩ = some ⟨0⟩ := by
  have alive : crossed.isAlive ⟨0⟩ = true := by decide +kernel
  have registered : crossed.Registered ⟨0⟩ ⟨1⟩ := by decide +kernel
  exact ⟨alive, registered,
    ((ownership Run.toCrossed alive).1 ⟨1⟩).mpr registered⟩

end Session

end Orchestration
