import Orchestration.Proofs.Session.Asking

namespace Orchestration

open SortedMap

/-! Moves of tasks from one workflow to another. A move touches the task and the
two workflows, each in one way, and nothing else. -/

namespace Workflow

structure Gains (before after : Workflow) (code : Int) (task : TaskId) :
    Prop where
  free : before.tasks.find? code = none
  tasks : ∀ other found, after.tasks.find? other = some found ↔
    other = code ∧ found = task ∨ before.tasks.find? other = some found
  rest : after = { before with tasks := after.tasks }

/-- The workflow has lost one task and the relations that touch its code, and is
the same otherwise. -/
structure Loses (before after : Workflow) (code : Int) (task : TaskId) :
    Prop where
  had : before.tasks.find? code = some task
  tasks : ∀ other found, after.tasks.find? other = some found ↔
    before.tasks.find? other = some found ∧ found ≠ task
  relations : ∀ relation : Relation, relation ∈ after.relations.toList ↔
    relation ∈ before.relations.toList ∧ relation.pre ≠ code ∧
      relation.post ≠ code
  rest : after =
    { before with tasks := after.tasks, relations := after.relations }

theorem gains_insert {workflow : Workflow} {code : Int} (task : TaskId)
    (free : workflow.tasks.find? code = none) :
    workflow.Gains
      { workflow with tasks := workflow.tasks.insert code task } code task where
  free := free
  tasks other found := by
    by_cases same : other = code
    · subst same
      simp [free, eq_comm]
    · simp [find?_insert_other _ same, same]
  rest := rfl

theorem loses_withoutTask {workflow : Workflow} {code : Int} {task : TaskId}
    (had : workflow.tasks.find? code = some task)
    (once : ∀ other, workflow.tasks.find? other = some task → other = code) :
    workflow.Loses (workflow.withoutTask code) code task where
  had := had
  tasks other found := by
    rw [withoutTask, find?_erase_eq_some_iff]
    refine and_congr_right fun listed => not_congr ⟨?_, ?_⟩
    · rintro rfl
      exact Option.some.inj (listed.symm.trans had)
    · rintro rfl
      exact once other listed
  relations relation := by
    rw [RelationSet.mem_toList_iff, RelationSet.mem_toList_iff, withoutTask,
      RelationSet.find?_without_eq_some_iff]
    rfl
  rest := rfl

end Workflow

namespace Session

variable {session : Session} {id : WorkflowId} {task : TaskId}

/-- A task has come into a workflow, out of the live one that had it before. -/
structure Transferred (before after : Session) (id : WorkflowId)
    (task : TaskId) : Prop where
  registered : after.Registered id task
  owned : after.owner task = some id
  target : (before.workflow id).Gains (after.workflow id)
    (before.task task).code task
  previous : ∀ previous, before.owner task = some previous →
    previous ≠ id ∧ (before.workflow previous).Loses (after.workflow previous)
      (before.task task).code task
  others : ∀ other, other ≠ id → before.owner task ≠ some other →
    after.workflow other = before.workflow other
  moved : after.task task = { before.task task with workflow := some id }
  tasks : ∀ other, other ≠ task → after.task other = before.task other
  hasTask : after.hasTask = before.hasTask
  hasWorkflow : after.hasWorkflow = before.hasWorkflow
  gateways : after.gateways = before.gateways
  scopes : after.scopes = before.scopes
  now : after.now = before.now

theorem addTask_false_iff :
    (session.addTask id task).1 = false ↔
      (session.workflow id).tasks.contains (session.task task).code = true := by
  rcases addTask_cases session id task with same | ⟨free, added⟩
  · cases taken :
        (session.workflow id).tasks.contains (session.task task).code with
    | true => simp [same]
    | false =>
        rw [addTask_of_free taken] at same
        cases congrArg Prod.fst same
  · simp [free, added]

theorem scopes_addTask (session : Session) (id : WorkflowId) (task : TaskId) :
    (session.addTask id task).2.scopes = session.scopes := by
  rcases addTask_cases session id task with same | ⟨free, -⟩
  · rw [same]
  · rw [addTask_of_free free]
    exact scopes_withdraw

theorem now_addTask (session : Session) (id : WorkflowId) (task : TaskId) :
    (session.addTask id task).2.now = session.now := by
  have withdrawn : (session.withdraw id task).now = session.now := by
    rcases withdraw_cases session id task with same | ⟨previous, -, -, same⟩
    · rw [same]
    · rw [same]
      rfl
  rcases addTask_cases session id task with same | ⟨free, -⟩
  · rw [same]
  · rw [addTask_of_free free]
    exact withdrawn

namespace Consistent

theorem contains_iff (consistent : session.Consistent)
    (alive : session.isAlive id) {code : Int} :
    (session.workflow id).tasks.contains code = true ↔
      ∃ other, session.Registered id other ∧
        (session.task other).code = code := by
  rw [contains, Option.isSome_iff_exists]
  constructor
  · rintro ⟨other, listed⟩
    obtain ⟨rfl, -⟩ := consistent.listed id code other alive listed
    exact ⟨other, listed, rfl⟩
  · rintro ⟨other, registered, rfl⟩
    exact ⟨other, registered⟩

theorem transferred (consistent : session.Consistent)
    (alive : session.isAlive id) (present : session.hasTask task)
    (free : (session.workflow id).tasks.contains (session.task task).code =
      false) :
    session.Transferred (session.addTask id task).2 id task where
  registered :=
    (registered_addTask_iff consistent free alive).mpr (.inl ⟨rfl, rfl⟩)
  owned := by
    rw [owner_eq_some_iff, task_addTask_self free present, isAlive_addTask]
    exact ⟨rfl, alive⟩
  target := by
    rw [workflow_addTask_self free (consistent.present id alive)]
    exact Workflow.gains_insert task (by simpa [contains] using free)
  previous previous owned := by
    have previousAlive := (owner_eq_some_iff.mp owned).2
    have registered := (consistent.owner_iff_registered previousAlive).mp owned
    have other : previous ≠ id := by
      rintro rfl
      rw [contains, registered] at free
      cases free
    rw [workflow_addTask_previous free (consistent.present _ previousAlive)
      owned other]
    refine ⟨other, Workflow.loses_withoutTask registered fun code listed => ?_⟩
    exact (consistent.listed previous code task previousAlive listed).1.symm
  others other different notOwner :=
    workflow_addTask_other different notOwner
  moved := task_addTask_self free present
  tasks other different := task_addTask_other different
  hasTask := funext hasTask_addTask
  hasWorkflow := funext hasWorkflow_addTask
  gateways := gateways_addTask session id task
  scopes := scopes_addTask session id task
  now := now_addTask session id task

/-- No relation of a live workflow ends at a code that the workflow has no task
for, and none but a root starts there. -/
theorem untouched (consistent : session.Consistent)
    (alive : session.isAlive id) {code : Int}
    (free : (session.workflow id).tasks.contains code = false)
    {relation : Relation}
    (member : relation ∈ (session.workflow id).relations.toList) :
    relation.post ≠ code ∧ (relation.pre = code → code = rootCode) := by
  have unlisted : code ∉ (session.workflow id).tasks.keys := by
    rw [mem_keys_iff, ← Option.isSome_iff_exists]
    simpa [contains] using free
  have ends : relation.endpoints ∈ (session.workflow id).relations.keys :=
    mem_keys_iff.mpr ⟨_, RelationSet.mem_toList_iff.mp member⟩
  constructor
  · rintro rfl
    exact unlisted (consistent.post id _ alive ends)
  · rintro rfl
    exact (consistent.pre id _ alive ends).resolve_right unlisted

end Consistent

/-- A task comes into a workflow unless that has one with its code, and then
nothing changes. Otherwise it is moved, and no relation touches it where it came
to, unless it has the code of roots. Gateways in memory never hand that out. -/
theorem transfer (run : Run session) (alive : session.isAlive id)
    (present : session.hasTask task) :
    ((session.addTask id task).1 = false ↔
        ∃ other, session.Registered id other ∧
          (session.task other).code = (session.task task).code) ∧
      ((session.addTask id task).1 = false →
        (session.addTask id task).2 = session) ∧
      ((session.addTask id task).1 = true →
        session.Transferred (session.addTask id task).2 id task ∧
        (∀ relation ∈
            ((session.addTask id task).2.workflow id).relations.toList,
          relation.post ≠ (session.task task).code) ∧
        ((session.task task).code ≠ rootCode →
          ∀ relation ∈
              ((session.addTask id task).2.workflow id).relations.toList,
            relation.pre ≠ (session.task task).code ∧
              relation.post ≠ (session.task task).code)) ∧
      ((run.All fun before operation => operation.Regular before) →
        (session.task task).code ≠ rootCode) := by
  have consistent := run.consistent
  refine ⟨addTask_false_iff.trans (consistent.contains_iff alive), ?_, ?_, ?_⟩
  · intro refused
    rw [addTask_of_taken (addTask_false_iff.mp refused)]
  · intro added
    have free : (session.workflow id).tasks.contains (session.task task).code =
        false := by
      rw [← Bool.not_eq_true, ← addTask_false_iff, added]
      exact nofun
    have moved := consistent.transferred alive present free
    have untouched : ∀ relation ∈
        ((session.addTask id task).2.workflow id).relations.toList,
        relation.post ≠ (session.task task).code ∧
          (relation.pre = (session.task task).code →
            (session.task task).code = rootCode) := by
      intro relation member
      rw [moved.target.rest] at member
      exact consistent.untouched alive free member
    refine ⟨moved, fun relation member => (untouched relation member).1, ?_⟩
    intro plain relation member
    obtain ⟨post, pre⟩ := untouched relation member
    exact ⟨fun same => plain (pre same), post⟩
  · intro regular root
    have first := run.firstCode_le regular present
    rw [root] at first
    cases first

/-- The later of two tasks that are linked moves to another workflow, and the
link stays behind as no relation of either. -/
theorem transfer_linked :
    ∃ session, ∃ run : Run session,
      (run.All fun before operation => operation.Regular before) ∧
      session.isAlive ⟨1⟩ = true ∧ session.hasTask ⟨1⟩ = true ∧
      session.owner ⟨1⟩ = some ⟨0⟩ ∧
      ⟨1000, 1001, "a -> b"⟩ ∈ (session.workflow ⟨0⟩).relations.toList ∧
      session.Transferred (session.addTask ⟨1⟩ ⟨1⟩).2 ⟨1⟩ ⟨1⟩ ∧
      ⟨1000, 1001, "a -> b"⟩ ∉
        ((session.addTask ⟨1⟩ ⟨1⟩).2.workflow ⟨0⟩).relations.toList := by
  let operations : List Operation := [.openGateway {},
    .openWorkflow { name := "first", gateway := ⟨0⟩ },
    .openWorkflow { name := "second", gateway := ⟨0⟩ },
    .build { name := "a", kind := .shell "", workflow := some ⟨0⟩ },
    .build { name := "b", kind := .shell "", workflow := some ⟨0⟩ },
    .precedes ⟨0⟩ [⟨1⟩]]
  let session := Operation.performAll { now := "" } operations
  let run : Run session := (Run.start "").extend operations (by decide +kernel)
  have regular : run.All fun before operation => operation.Regular before := by
    refine ⟨⟨⟨⟨⟨⟨trivial, ⟨.start⟩⟩, ?_⟩, ?_⟩, trivial⟩, trivial⟩, trivial⟩
    · change Session.hasGateway _ _ = true
      decide +kernel
    · change Session.hasGateway _ _ = true
      decide +kernel
  have alive : session.isAlive ⟨1⟩ = true := by decide +kernel
  have present : session.hasTask ⟨1⟩ = true := by decide +kernel
  have added : (session.addTask ⟨1⟩ ⟨1⟩).1 = true := by decide +kernel
  have owned : session.owner ⟨1⟩ = some ⟨0⟩ := by decide +kernel
  have code : (session.task ⟨1⟩).code = 1001 := by decide +kernel
  have moved := ((transfer run alive present).2.2.1 added).1
  obtain ⟨-, lost⟩ := moved.previous ⟨0⟩ owned
  have linked : ⟨1000, 1001, "a -> b"⟩ ∈
      (session.workflow ⟨0⟩).relations.toList :=
    RelationSet.mem_toList_iff.mpr (by decide +kernel)
  refine ⟨session, run, regular, alive, present, owned, linked, moved, ?_⟩
  intro member
  exact ((lost.relations _).mp member).2.2 code.symm

/-- A task that was given the code of roots comes to where roots are, and their
relations touch it. -/
theorem transfer_rooted :
    ∃ session, ∃ _ : Run session,
      session.isAlive ⟨0⟩ = true ∧ session.hasTask ⟨1⟩ = true ∧
      (session.addTask ⟨0⟩ ⟨1⟩).1 = true ∧
      ∃ relation ∈ ((session.addTask ⟨0⟩ ⟨1⟩).2.workflow ⟨0⟩).relations.toList,
        relation.pre = (session.task ⟨1⟩).code := by
  let operations : List Operation := [.openGateway {},
    .openGateway { nextCode := 0 },
    .openWorkflow { name := "first", gateway := ⟨0⟩ },
    .openWorkflow { name := "second", gateway := ⟨1⟩ },
    .build { name := "a", kind := .shell "", workflow := some ⟨0⟩ },
    .build { name := "b", kind := .shell "", workflow := some ⟨1⟩ },
    .synthesizeRoots ⟨0⟩]
  let session := Operation.performAll { now := "" } operations
  let run : Run session := (Run.start "").extend operations (by decide +kernel)
  refine ⟨session, run, by decide +kernel, by decide +kernel,
    by decide +kernel, Relation.root 1000, ?_, by decide +kernel⟩
  exact RelationSet.mem_toList_iff.mpr (by decide +kernel)

end Session

end Orchestration
