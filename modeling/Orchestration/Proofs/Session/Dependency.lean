import Orchestration.Proofs.Session.Ownership

namespace Orchestration

open SortedMap

namespace Session

/-! The relations of a workflow, told by the links that were made. -/

variable {session : Session} {id : WorkflowId} {task : TaskId}
  {standing : TaskId → TaskId → Prop}

/-- Roots aside, a live workflow has the relations of some links between its
tasks and no others. -/
structure Tracks (session : Session) (id : WorkflowId)
    (standing : TaskId → TaskId → Prop) : Prop where
  present : ∀ pre post, standing pre post → session.hasWorkflow id
  registered : ∀ pre post, session.isAlive id → standing pre post →
    session.Registered id pre ∧ session.Registered id post
  relations : ∀ relation : Relation, session.isAlive id →
    relation.pre ≠ rootCode →
    (relation ∈ (session.workflow id).relations.toList ↔
      ∃ pre post, standing pre post ∧
        relation = session.relationBetween pre post)

theorem Registered.eq_of_code {first second : TaskId}
    (registered : session.Registered id first)
    (other : session.Registered id second)
    (same : (session.task first).code = (session.task second).code) :
    first = second := by
  rw [Registered, same, other] at registered
  exact (Option.some.inj registered).symm

theorem Registered.hasWorkflow (registered : session.Registered id task) :
    session.hasWorkflow id := by
  cases present : session.hasWorkflow id with
  | true => rfl
  | false =>
      have beyond : session.workflows.length ≤ id.index := by
        simpa [Session.hasWorkflow] using present
      rw [Registered, workflow, List.getD_eq_getElem?_getD,
        List.getElem?_eq_none beyond] at registered
      cases registered

namespace Tracks

/-- It does not matter how the links are told as long as they are the same. -/
theorem congr (tracks : Tracks session id standing)
    {other : TaskId → TaskId → Prop}
    (present : ∀ pre post, other pre post → session.hasWorkflow id)
    (same : session.isAlive id → ∀ pre post,
      other pre post ↔ standing pre post) :
    Tracks session id other where
  present := present
  registered pre post alive stands :=
    tracks.registered pre post alive ((same alive pre post).mp stands)
  relations relation alive notRoot := by
    simp only [tracks.relations relation alive notRoot, same alive]

theorem steady {before after : Session} (tracks : Tracks before id standing)
    (steady : Steady before after) : Tracks after id standing where
  present pre post stands := by
    rw [steady.hasWorkflow]
    exact tracks.present pre post stands
  registered pre post alive stands := by
    simp only [Registered, steady.tasks, steady.field Task.code fun _ => rfl]
    exact tracks.registered pre post (steady.alive id alive) stands
  relations relation alive notRoot := by
    rw [RelationSet.mem_toList_iff, steady.relations id _ notRoot,
      ← RelationSet.mem_toList_iff,
      tracks.relations relation (steady.alive id alive) notRoot]
    simp only [relationBetween, Task.relationName,
      steady.field Task.code fun _ => rfl, steady.field Task.name fun _ => rfl]

theorem addWorkflow {workflow : Workflow}
    (tracks : Tracks session id standing)
    (noRelations : workflow.relations = .empty) :
    Tracks (session.addWorkflow workflow).2 id standing := by
  by_cases new : id = (session.addWorkflow workflow).1
  · have none : ∀ pre post, ¬ standing pre post := by
      intro pre post stands
      have present := tracks.present pre post stands
      rw [new, hasWorkflow_addWorkflow_fst] at present
      cases present
    refine ⟨?_, ?_, ?_⟩
    · intro pre post stands
      exact absurd stands (none pre post)
    · intro pre post _ stands
      exact absurd stands (none pre post)
    · intro relation _ _
      simp [new, workflow_addWorkflow_self, noRelations, none,
        RelationSet.mem_toList_iff]
  · refine ⟨?_, ?_, ?_⟩
    · intro pre post stands
      exact hasWorkflow_addWorkflow_iff.mpr
        (.inl (tracks.present pre post stands))
    · intro pre post alive stands
      rw [isAlive_addWorkflow_other new] at alive
      rw [Registered, Registered, workflow_addWorkflow_other new]
      exact tracks.registered pre post alive stands
    · intro relation alive notRoot
      rw [isAlive_addWorkflow_other new] at alive
      rw [workflow_addWorkflow_other new]
      exact tracks.relations relation alive notRoot

theorem newTask (tracks : Tracks session id standing)
    (consistent : Consistent session) (task : Task) :
    Tracks (session.newTask task).2 id standing := by
  have old : ∀ other, session.isAlive id → session.Registered id other →
      (session.newTask task).2.task other = session.task other := by
    intro other alive registered
    apply task_newTask_other
    intro equality
    subst equality
    have present := consistent.hasTask_of_listed alive registered
    simp at present
  refine ⟨tracks.present, ?_, ?_⟩
  · intro pre post alive stands
    obtain ⟨first, second⟩ := tracks.registered pre post alive stands
    rw [Registered, Registered, old pre alive first, old post alive second]
    exact ⟨first, second⟩
  · intro relation alive notRoot
    refine (tracks.relations relation alive notRoot).trans ?_
    refine exists₂_congr fun pre post => and_congr_right fun stands => ?_
    obtain ⟨first, second⟩ := tracks.registered pre post alive stands
    rw [relationBetween, relationBetween, old pre alive first,
      old post alive second]

private theorem moves_addTask_iff
    (free : (session.workflow id).tasks.contains (session.task task).code =
      false)
    {other : WorkflowId} {moved : TaskId} :
    (Operation.addTask id task).Moves session moved other ↔
      moved = task ∧ session.Registered other task := by
  constructor
  · intro moves
    obtain ⟨_, same, -, registered, -⟩ := moves
    cases same
    exact ⟨rfl, registered⟩
  · intro leaves
    obtain ⟨rfl, registered⟩ := leaves
    refine ⟨id, rfl, ?_, registered, by rw [addTask_of_free free]⟩
    intro equality
    subst equality
    rw [Registered] at registered
    simp [contains, registered] at free

private theorem not_moves_of_taken {target other : WorkflowId}
    {moved : TaskId}
    (taken : session.addTask target task = (false, session)) :
    ¬ (Operation.addTask target task).Moves session moved other := by
  intro moves
  obtain ⟨_, same, -, -, added⟩ := moves
  cases same
  rw [taken] at added
  cases added

private theorem addTask_of_free (tracks : Tracks session id standing)
    (consistent : Consistent session) {target : WorkflowId}
    (free : (session.workflow target).tasks.contains
      (session.task task).code = false) :
    Tracks (session.addTask target task).2 id fun pre post =>
      standing pre post ∧ ¬ (pre = task ∧ session.Registered id task) ∧
        ¬ (post = task ∧ session.Registered id task) where
  present pre post link := by
    rw [hasWorkflow_addTask]
    exact tracks.present pre post link.1
  registered pre post alive link := by
    obtain ⟨stands, preStays, postStays⟩ := link
    rw [isAlive_addTask] at alive
    obtain ⟨first, second⟩ := tracks.registered pre post alive stands
    rw [registered_addTask_iff consistent free alive,
      registered_addTask_iff consistent free alive]
    constructor
    · exact .inr ⟨fun same => preStays ⟨same, same ▸ first⟩, first⟩
    · exact .inr ⟨fun same => postStays ⟨same, same ▸ second⟩, second⟩
  relations relation alive notRoot := by
    rw [isAlive_addTask] at alive
    rw [RelationSet.mem_toList_iff,
      relations_addTask_iff consistent free alive,
      ← RelationSet.mem_toList_iff,
      tracks.relations relation alive notRoot]
    simp only [relationBetween_addTask]
    constructor
    · intro kept
      obtain ⟨⟨pre, post, stands, rfl⟩, apart⟩ := kept
      refine ⟨pre, post, ⟨stands, ?_, ?_⟩, rfl⟩
      · intro leaves
        obtain ⟨rfl, registered⟩ := leaves
        exact (apart registered).1 rfl
      · intro leaves
        obtain ⟨rfl, registered⟩ := leaves
        exact (apart registered).2 rfl
    · intro link
      obtain ⟨pre, post, ⟨stands, preStays, postStays⟩, rfl⟩ := link
      obtain ⟨first, second⟩ := tracks.registered pre post alive stands
      refine ⟨⟨pre, post, stands, rfl⟩, fun registered => ⟨?_, ?_⟩⟩
      · intro same
        exact preStays ⟨first.eq_of_code registered same, registered⟩
      · intro same
        exact postStays ⟨second.eq_of_code registered same, registered⟩

theorem addTask (tracks : Tracks session id standing)
    (consistent : Consistent session) (target : WorkflowId) (task : TaskId) :
    Tracks (session.addTask target task).2 id fun pre post =>
      standing pre post ∧
        ¬ (Operation.addTask target task).Moves session pre id ∧
        ¬ (Operation.addTask target task).Moves session post id := by
  rcases addTask_cases session target task with same | ⟨free, -⟩
  · rw [same]
    simpa [not_moves_of_taken same] using tracks
  · simp only [moves_addTask_iff free]
    exact tracks.addTask_of_free consistent free

theorem calm {before after : Session} (tracks : Tracks before id standing)
    (consistent : Consistent before) (calm : Calm before after) :
    Tracks after id standing := by
  cases calm with
  | steady steady => exact tracks.steady steady
  | openWorkflow workflow _ noRelations =>
      exact tracks.addWorkflow noRelations
  | @enlist target task _ _ unowned =>
      have moved := (tracks.newTask consistent task).addTask
        (consistent.newTask unowned) target (before.newTask task).1
      apply moved.congr
      · intro pre post stands
        rw [hasWorkflow_addTask]
        exact tracks.present pre post stands
      · intro alive pre post
        rw [isAlive_addTask] at alive
        have stays : ∀ other, before.Registered id other →
            ¬ (Operation.addTask target (before.newTask task).1).Moves
              (before.newTask task).2 other id := by
          intro other registered moves
          obtain ⟨_, same, -⟩ := moves
          cases same
          have present := consistent.hasTask_of_listed alive registered
          simp at present
        refine ⟨fun stands => ?_, And.left⟩
        obtain ⟨first, second⟩ := tracks.registered pre post alive stands
        exact ⟨stands, stays pre first, stays post second⟩

theorem calms {before after : Session} (tracks : Tracks before id standing)
    (consistent : Consistent before)
    (calm : Relation.ReflTransGen Calm before after) :
    Tracks after id standing ∧ Consistent after := by
  induction calm with
  | refl => exact ⟨tracks, consistent⟩
  | tail _ step induction =>
      obtain ⟨tracks, consistent⟩ := induction
      exact ⟨tracks.calm consistent step, consistent.change (.calm step)⟩

theorem stands_of_mem (tracks : Tracks session id standing)
    (alive : session.isAlive id) {pre post : TaskId}
    (first : session.Registered id pre) (second : session.Registered id post)
    (notRoot : (session.task pre).code ≠ rootCode)
    (member : (session.relationBetween pre post).endpoints ∈
      (session.workflow id).relations.keys) : standing pre post := by
  obtain ⟨name, found⟩ := mem_keys_iff.mp member
  have listed : ⟨(session.task pre).code, (session.task post).code, name⟩ ∈
      (session.workflow id).relations.toList :=
    RelationSet.mem_toList_iff.mpr found
  obtain ⟨other, another, stands, same⟩ :=
    (tracks.relations _ alive notRoot).mp listed
  obtain ⟨otherFirst, otherSecond⟩ :=
    tracks.registered other another alive stands
  have codes := Relation.mk.inj same
  have preSame := first.eq_of_code otherFirst codes.1
  have postSame := second.eq_of_code otherSecond codes.2.1
  subst preSame
  subst postSame
  exact stands

/-! A link stands if both of its tasks are in the workflow. -/

theorem link (tracks : Tracks session id standing)
    (consistent : Consistent session) (first second : TaskId) :
    Tracks (session.link first first second) id fun pre post =>
      (pre, post) = (first, second) ∧
          session.Registered id pre ∧ session.Registered id post ∨
        standing pre post where
  present pre post := by
    rw [hasWorkflow_link]
    intro link
    rcases link with ⟨-, registered, -⟩ | stands
    · exact registered.hasWorkflow
    · exact tracks.present pre post stands
  registered pre post alive := by
    rw [isAlive_link] at alive
    rw [registered_link, registered_link]
    intro link
    rcases link with ⟨-, both⟩ | stands
    · exact both
    · exact tracks.registered pre post alive stands
  relations relation alive notRoot := by
    rw [isAlive_link] at alive
    simp only [relationBetween_link]
    have before := tracks.relations relation alive notRoot
    rcases consistent.relations_link_cases alive first second with
      ⟨both, added⟩ | ⟨parted, same⟩
    · rw [added, RelationSet.mem_toList_add, before]
      constructor
      · intro member
        rcases member with ⟨pre, post, stands, rfl⟩ | ⟨rfl, -⟩
        · exact ⟨pre, post, .inr stands, rfl⟩
        · exact ⟨first, second, .inl ⟨rfl, both⟩, rfl⟩
      · intro link
        rcases link with ⟨pre, post, ⟨same, -⟩ | stands, rfl⟩
        · cases same
          by_cases member : (session.relationBetween first second).endpoints ∈
              (session.workflow id).relations.keys
          · have stands := tracks.stands_of_mem alive both.1 both.2 notRoot
              member
            exact .inl ⟨first, second, stands, rfl⟩
          · exact .inr ⟨rfl, member⟩
        · exact .inl ⟨pre, post, stands, rfl⟩
    · rw [same, before]
      refine exists₂_congr fun pre post => and_congr_left' ?_
      constructor
      · exact .inr
      · intro link
        rcases link with ⟨same, both⟩ | stands
        · cases same
          exact absurd both parted
        · exact stands

theorem linkAll (tracks : Tracks session id standing)
    (consistent : Consistent session) (pairs : List (TaskId × TaskId)) :
    Tracks (session.linkAll pairs) id fun pre post =>
      (pre, post) ∈ pairs ∧
          session.Registered id pre ∧ session.Registered id post ∨
        standing pre post := by
  induction pairs generalizing session standing with
  | nil => simpa using tracks
  | cons pair rest induction =>
      obtain ⟨first, second⟩ := pair
      have linked := induction (tracks.link consistent first second)
        (consistent.link first second)
      simp only [registered_link] at linked
      simpa [or_and_right, or_assoc, or_left_comm] using linked

theorem perform (tracks : Tracks session id standing)
    (consistent : Consistent session) {operation : Operation}
    (possible : operation.isPossible session = true) :
    Tracks (operation.perform session) id fun pre post =>
      (pre, post) ∈ operation.links session ∧
          (operation.perform session).Registered id pre ∧
          (operation.perform session).Registered id post ∨
        standing pre post ∧ ¬ operation.Moves session pre id ∧
          ¬ operation.Moves session post id := by
  by_cases move : ∃ target task, operation = .addTask target task
  · obtain ⟨target, task, rfl⟩ := move
    simpa [Operation.links, Operation.perform] using
      tracks.addTask consistent target task
  · obtain ⟨middle, calm, performed, -⟩ :=
      (Operation.perform_cases possible).resolve_left move
    have still : ∀ moved, ¬ operation.Moves session moved id := by
      intro moved moves
      obtain ⟨target, same, -⟩ := moves
      exact move ⟨target, moved, same⟩
    obtain ⟨tracks, consistent⟩ := tracks.calms consistent calm
    simpa [performed, still] using
      tracks.linkAll consistent (operation.links session)

end Tracks

theorem tracks_stands (run : Run session) (id : WorkflowId) :
    Tracks session id fun pre post => run.Stands id pre post := by
  induction run with
  | start now => exact ⟨nofun, nofun, nofun⟩
  | step run operation possible induction =>
      exact induction.perform run.consistent possible

/-- Roots aside, a live workflow has one relation for every two tasks that were
linked in it and are still there, with the names of both. -/
theorem dependencies (run : Run session) {id : WorkflowId}
    (alive : session.isAlive id)
    (coded : ∀ task ∈ session.tasks, task.code ≠ rootCode) :
    (∀ relation : Relation,
      relation ∈ (session.workflow id).relations.toList ∧
          relation.isRoot = false ↔
        ∃ pre post, run.Stands id pre post ∧
          relation = {
            pre := (session.task pre).code
            post := (session.task post).code
            name := (session.task pre).name ++ " -> " ++
              (session.task post).name }) ∧
      ((session.workflow id).relations.toList.map
        Relation.endpoints).Nodup := by
  have tracks := tracks_stands run id
  refine ⟨fun relation => ?_, ?_⟩
  · rw [Relation.isRoot, beq_eq_false_iff_ne]
    constructor
    · intro listed
      obtain ⟨member, notRoot⟩ := listed
      exact (tracks.relations relation alive notRoot).mp member
    · intro link
      obtain ⟨pre, post, stands, rfl⟩ := link
      have registered := (tracks.registered pre post alive stands).1
      have present := run.consistent.hasTask_of_listed alive registered
      have notRoot := coded _ (task_mem_tasks present)
      refine ⟨(tracks.relations _ alive notRoot).mpr ?_, notRoot⟩
      exact ⟨pre, post, stands, rfl⟩
  · rw [RelationSet.endpoints_toList]
    exact keys_nodup _

theorem dependencies_relinked :
    ∃ session, ∃ run : Run session, session.isAlive ⟨0⟩ = true ∧
      (∀ task ∈ session.tasks, task.code ≠ rootCode) ∧
      run.Stands ⟨0⟩ ⟨0⟩ ⟨1⟩ ∧
      ⟨1000, 1001, "a -> b"⟩ ∈ (session.workflow ⟨0⟩).relations.toList := by
  let relink := Operation.precedes ⟨0⟩ [⟨1⟩]
  have possible : relink.isPossible crossed = true := by decide +kernel
  have alive : (relink.perform crossed).isAlive ⟨0⟩ = true := by
    decide +kernel
  have coded : ∀ task ∈ (relink.perform crossed).tasks,
      task.code ≠ rootCode := by
    decide +kernel
  have stands : (Run.toCrossed.step relink possible).Stands ⟨0⟩ ⟨0⟩ ⟨1⟩ :=
    .inl (by decide +kernel)
  have member := ((dependencies _ alive coded).1 ⟨1000, 1001, "a -> b"⟩).mpr
    ⟨⟨0⟩, ⟨1⟩, stands, by decide +kernel⟩
  exact ⟨_, _, alive, coded, stands, member.1⟩

end Session

end Orchestration
