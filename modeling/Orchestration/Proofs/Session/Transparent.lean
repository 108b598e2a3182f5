import Orchestration.Proofs.Session.Perform

namespace Orchestration

open Orchestration.Action (Congruent)

/-! Nobody can tell afterwards whether workflows were described while they were
built: all operations keep sessions alike. -/

namespace Session

/-- No task has the code that stands for no task. -/
def Coded (session : Session) : Prop :=
  ∀ task ∈ session.tasks, task.code ≠ rootCode

instance (session : Session) : Decidable session.Coded :=
  inferInstanceAs (Decidable (∀ task ∈ session.tasks, task.code ≠ rootCode))

theorem Change.code {before after : Session} (change : Change before after)
    {id : TaskId} (present : before.hasTask id) :
    after.hasTask id ∧ (after.task id).code = (before.task id).code := by
  cases change with
  | calm calm =>
      refine ⟨calm.hasTask present, ?_⟩
      cases calm with
      | steady steady => exact steady.field Task.code (fun _ => rfl) id
      | openWorkflow => rfl
      | enlist =>
          rw [enlisted, task_addTask_kept Task.code fun _ _ => rfl,
            task_newTask_other]
          rintro rfl
          simp at present
  | move =>
      rw [hasTask_addTask]
      exact ⟨present, task_addTask_kept Task.code (fun _ _ => rfl) _ _ _ _⟩
  | link =>
      rw [hasTask_link]
      exact ⟨present, code_link _ _ _ _⟩

theorem coded_of_changes {before after : Session}
    (changes : Relation.ReflTransGen Change before after)
    (coded : after.Coded) : before.Coded := by
  induction changes with
  | refl => exact coded
  | tail _ change induction =>
      apply induction
      intro task member
      obtain ⟨id, present, rfl⟩ := exists_of_mem_tasks member
      obtain ⟨kept, same⟩ := change.code present
      rw [← same]
      exact coded _ (task_mem_tasks kept)

theorem coded_link {session : Session} {pre post : TaskId} :
    (session.link pre pre post).Coded ↔ session.Coded := by
  constructor
  · intro coded task member
    obtain ⟨id, present, rfl⟩ := exists_of_mem_tasks member
    rw [← code_link session pre post]
    apply coded _ (task_mem_tasks _)
    rwa [hasTask_link]
  · intro coded task member
    obtain ⟨id, present, rfl⟩ := exists_of_mem_tasks member
    rw [hasTask_link] at present
    rw [code_link]
    exact coded _ (task_mem_tasks present)

theorem coded_linkAll {session : Session} {pairs : List (TaskId × TaskId)} :
    (session.linkAll pairs).Coded ↔ session.Coded := by
  induction pairs generalizing session with
  | nil => rfl
  | cons pair rest induction => rw [linkAll_cons, induction, coded_link]

namespace Alike

variable {session other : Session}

theorem remember (alike : session.Alike other) (pre post : TaskId) :
    (session.remember pre post).Alike (other.remember pre post) := by
  rw [Session.remember, Session.remember, alike.task, alike.task]
  exact (alike.updateTask pre _).updateTask post _

theorem record (alike : session.Alike other) (id : WorkflowId)
    {relation : Relation} (notRoot : relation.pre ≠ rootCode) :
    (session.record id relation).Alike (other.record id relation) :=
  alike.updateWorkflow id ((alike.workflow id).withRelation notRoot)

theorem link (alike : session.Alike other) (coded : session.Coded)
    (pre post : TaskId) :
    (session.link pre pre post).Alike (other.link pre pre post) := by
  rcases link_cases session pre post with
    ⟨id, first, second, same⟩ | ⟨parted, same⟩
  · have notRoot : (session.task pre).code ≠ rootCode :=
      coded _ (task_mem_tasks (hasTask_of_owner first))
    rw [same, link_of_owned (alike.owner pre ▸ first)
      (alike.owner post ▸ second), ← alike.relationBetween]
    exact (alike.remember pre post).record id notRoot
  · have otherParted : ∀ id,
        ¬ (other.owner pre = some id ∧ other.owner post = some id) := by
      intro id
      rw [← alike.owner, ← alike.owner]
      exact parted id
    rw [same, link_of_parted otherParted]
    exact alike.remember pre post

theorem linkAll (alike : session.Alike other) (coded : session.Coded)
    (pairs : List (TaskId × TaskId)) :
    (session.linkAll pairs).Alike (other.linkAll pairs) := by
  induction pairs generalizing session other with
  | nil => exact alike
  | cons pair rest induction =>
      exact induction (alike.link coded pair.1 pair.2) (coded_link.mpr coded)

theorem withdraw (alike : session.Alike other) (id : WorkflowId)
    (task : TaskId) :
    (session.withdraw id task).Alike (other.withdraw id task) := by
  rw [Session.withdraw, Session.withdraw, alike.owner, alike.task]
  cases other.owner task with
  | none => exact alike
  | some previous =>
      by_cases same : previous = id
      · simpa only [same, if_true] using alike
      · simp only [same, if_false]
        exact alike.updateWorkflow previous
          ((alike.workflow previous).withoutTask _)

theorem addTask (alike : session.Alike other) (id : WorkflowId)
    (task : TaskId) :
    (session.addTask id task).2.Alike (other.addTask id task).2 := by
  have contained :
      (session.workflow id).tasks.contains (session.task task).code =
        (other.workflow id).tasks.contains (other.task task).code := by
    rw [alike.workflow_tasks, alike.task]
  cases taken :
      (session.workflow id).tasks.contains (session.task task).code with
  | true =>
      rw [addTask_of_taken taken, addTask_of_taken (contained ▸ taken)]
      exact alike
  | false =>
      have left := alike.withdraw id task
      rw [addTask_of_free taken, addTask_of_free (contained ▸ taken),
        alike.task]
      apply Alike.updateTask
      apply left.updateWorkflow_ignoring
      · exact fun _ _ => rfl
      · exact fun _ _ => SortedMap.mem_keys_insert _ _

theorem enlisted (alike : session.Alike other) (id : WorkflowId)
    (task : Task) :
    (session.enlisted id task).Alike (other.enlisted id task) := by
  obtain ⟨same, extended⟩ := alike.newTask task
  rw [Session.enlisted, Session.enlisted, same]
  exact extended.addTask id _

theorem register (alike : session.Alike other) (id : WorkflowId) (task : Task)
    (coded : (session.register id task).2.Coded) :
    (session.register id task).2.Alike (other.register id task).2 := by
  have tasks := alike.workflow_tasks id
  cases taken : (session.workflow id).tasks.contains task.code with
  | true =>
      rw [register_of_taken taken, register_of_taken (tasks ▸ taken)]
      exact alike
  | false =>
      have otherFree : (other.workflow id).tasks.contains task.code = false :=
        tasks ▸ taken
      have same := (alike.newTask task).1
      rw [register_of_free taken] at coded ⊢
      rw [register_of_free otherFree]
      rw [linkBranches_eq, task_enlisted_self taken] at coded ⊢
      rw [linkBranches_eq, task_enlisted_self otherFree, ← same]
      exact (alike.enlisted id task).linkAll (coded_linkAll.mp coded) _

end Alike

end Session

namespace TaskDraft

theorem plan_congruent (draft : TaskDraft) : Congruent draft.plan := by
  refine .read (fun {session other} alike => ?_) fun _ =>
    .bind (.ofExcept _) fun (id, _) => .read (fun alike => ?_) fun _ =>
      .bind (.ask _ _) fun _ => .pure _
  · have home : draft.workflowIn session = draft.workflowIn other := by
      rw [workflowIn, workflowIn, alike.scopes]
    have kinds : ∀ id, draft.resolvedKind (session.workflow id) =
        draft.resolvedKind (other.workflow id) := by
      intro id
      obtain ⟨relations, same⟩ := (alike.workflow id).relations_only
      rw [same]
      rfl
    have same : draft.reading session = draft.reading other := by
      simp only [reading, home, kinds]
    rw [same]
  · obtain ⟨relations, same⟩ := (alike.workflow id).relations_only
    rw [same]

theorem build_alike {draft : TaskDraft} {session other : Session}
    (alike : session.Alike other) (coded : (draft.build.run session).2.Coded) :
    (draft.build.run session).2.Alike (draft.build.run other).2 := by
  have result := draft.plan_congruent.result alike
  have after := draft.plan_congruent.after alike
  rw [build_eq, Action.run_bind] at coded ⊢
  rw [Action.run_bind]
  generalize draft.plan.run session = reached at coded result after ⊢
  generalize draft.plan.run other = otherReached at result after ⊢
  obtain ⟨outcome, middle⟩ := reached
  obtain ⟨otherOutcome, otherMiddle⟩ := otherReached
  cases result
  cases outcome with
  | error error => exact after
  | ok planned => exact after.register planned.1 planned.2 coded

end TaskDraft

namespace Operation

open Session (Coded)

/-- The operation describes a workflow or finds its roots. -/
def isLook : Operation → Bool
  | synthesizeRoots _ | definitionList _ | relationList _ | definition _
  | summary _ => true
  | _ => false

theorem perform_look {session other : Session} {operation : Operation}
    (alike : session.Alike other) (look : operation.isLook) :
    session.Alike (operation.perform other) := by
  cases operation with
  | synthesizeRoots id => exact alike.synthesizeRoots_right id
  | definitionList id =>
      exact alike.looked (Session.definitionList_looked id other)
  | relationList id =>
      exact alike.looked (Session.relationList_looked id other)
  | definition id => exact alike.looked (Session.definition_looked id other)
  | summary id => exact alike.looked (Session.summary_looked id other)
  | _ => cases look

theorem perform_alike {session other : Session} {operation : Operation}
    (alike : session.Alike other)
    (coded : (operation.perform session).Coded) :
    (operation.perform session).Alike (operation.perform other) := by
  cases operation with
  | openGateway server => exact alike.addGateway server
  | serve id server => exact alike.updateGateway id rfl
  | clock now => exact alike.withNow now
  | openWorkflow draft =>
      simp only [perform]
      cases built : draft.build with
      | ok workflow =>
          have noRelations := (WorkflowDraft.build_ok built).2.1
          apply alike.addWorkflow
          rw [noRelations]
          exact .empty _
      | error error => exact alike
  | hold id =>
      apply alike.updateWorkflow_ignoring
      · exact fun _ _ => rfl
      · exact fun _ _ listed => listed
  | release id =>
      apply alike.updateWorkflow_ignoring
      · exact fun _ _ => rfl
      · exact fun _ _ listed => listed
  | enter id =>
      rw [perform, perform, Session.enter, Session.enter, alike.scopes]
      exact alike.withScopes _
  | leave =>
      rw [perform, perform, Session.leave, Session.leave, alike.scopes]
      exact alike.withScopes _
  | setParameter id name value =>
      apply alike.updateWorkflow_ignoring
      · exact fun _ _ => rfl
      · exact fun _ _ listed => listed
  | build draft => exact TaskDraft.build_alike alike coded
  | addInput task name value => exact alike.updateTask task _
  | addOutput task name value => exact alike.updateTask task _
  | addTask id task => exact alike.addTask id task
  | precedes task targets =>
      simp only [perform, Session.precedes_eq] at coded ⊢
      exact alike.linkAll (Session.coded_linkAll.mp coded) _
  | follows task targets =>
      simp only [perform, Session.follows_eq] at coded ⊢
      exact alike.linkAll (Session.coded_linkAll.mp coded) _
  | arrow direction left right =>
      simp only [perform, Session.arrow_eq] at coded ⊢
      exact alike.linkAll (Session.coded_linkAll.mp coded) _
  | synthesizeRoots id =>
      exact (alike.symm.synthesizeRoots_right id).symm.synthesizeRoots_right id
  | definitionList id =>
      exact (Session.definitionList_describes id).congruent.after alike
  | relationList id => exact (Session.relationList_congruent id).after alike
  | definition id => exact (Session.definition_congruent id).after alike
  | summary id => exact (Session.summary_congruent id).after alike
  | submit id => exact (Session.submit_congruent id).after alike
  | start id => exact (Session.start_congruent id).after alike
  | submitAndStart id =>
      exact (Session.submitAndStart_congruent id).after alike

theorem isPossible_alike {session other : Session} (alike : session.Alike other)
    (operation : Operation) :
    operation.isPossible session = operation.isPossible other := by
  have present : session.hasTask = other.hasTask := by
    funext id
    rw [Session.hasTask, Session.hasTask, alike.tasks]
  cases operation <;> simp only [isPossible, alike.isAlive, present]

end Operation

/-- The second run does all that the first run does, in the same order. What it
does in between only describes workflows or finds their roots. -/
inductive Run.Watched :
    {session observed : Session} → Run session → Run observed → Prop where
  | start (now : String) : Watched (.start now) (.start now)
  | step {session observed : Session} {run : Run session}
      {other : Run observed} (watched : Watched run other)
      (operation : Operation) (possible : operation.isPossible session = true)
      (otherPossible : operation.isPossible observed = true) :
      Watched (run.step operation possible) (other.step operation otherPossible)
  | look {session observed : Session} {run : Run session}
      {other : Run observed} (watched : Watched run other)
      (operation : Operation) (look : operation.isLook = true)
      (possible : operation.isPossible observed = true) :
      Watched run (other.step operation possible)

namespace Run.Watched

variable {session observed : Session} {run : Run session}
  {other : Run observed}

theorem refl (run : Run session) : run.Watched run := by
  induction run with
  | start now => exact .start now
  | step run operation possible induction =>
      exact induction.step operation possible possible

theorem alike (watched : run.Watched other) (coded : session.Coded) :
    session.Alike observed := by
  induction watched with
  | start now => exact .start now
  | step watched operation possible otherPossible induction =>
      have before := Session.coded_of_changes
        (Operation.perform_changes possible) coded
      exact Operation.perform_alike (induction before) coded
  | look watched operation look possible induction =>
      exact Operation.perform_look (induction coded) look

end Run.Watched

namespace Session

theorem synthesizeRoots_twice (session : Session) (id : WorkflowId) :
    (session.synthesizeRoots id).synthesizeRoots id =
      session.synthesizeRoots id := by
  simp only [synthesizeRoots, updateWorkflow, List.modify_modify_eq]
  congr 2
  funext workflow
  simp only [Function.comp_apply, Workflow.withRoots,
    RelationSet.withRoots_withRoots]

/-- Whether and when workflows were described, or their roots found, while they
were built makes no difference: once the roots are there, their relations are
the same, and relations that are not roots are the same all the time. Finding
roots again does nothing. -/
theorem transparent {observed : Session} {run : Run session}
    {other : Run observed} (watched : run.Watched other)
    (coded : session.Coded) (id : WorkflowId) :
    ((observed.synthesizeRoots id).workflow id).relations =
        ((session.synthesizeRoots id).workflow id).relations ∧
      (∀ relation : Relation, relation.isRoot = false →
        (relation ∈ (observed.workflow id).relations.toList ↔
          relation ∈ (session.workflow id).relations.toList)) ∧
      (session.synthesizeRoots id).synthesizeRoots id =
        session.synthesizeRoots id ∧
      ∀ operation : Operation,
        operation.isPossible observed = operation.isPossible session := by
  have alike := watched.alike coded
  refine ⟨?_, ?_, ?_, ?_⟩
  · rw [alike.synthesizeRoots id]
  · intro relation notRoot
    have ends : relation.endpoints.pre ≠ rootCode := by
      simpa [Relation.isRoot, Relation.endpoints] using notRoot
    rw [RelationSet.mem_toList_iff, RelationSet.mem_toList_iff,
      (alike.workflow id).relations _ ends]
  · exact synthesizeRoots_twice session id
  · exact fun operation => (Operation.isPossible_alike alike operation).symm

/-- A task that had a root for a while gets a predecessor instead. -/
theorem transparent_relinked :
    let look := Operation.summary ⟨0⟩
    let relink := Operation.precedes ⟨0⟩ [⟨1⟩]
    let observed := relink.perform (look.perform crossed)
    ⟨rootCode, 1001⟩ ∈
        ((look.perform crossed).workflow ⟨0⟩).relations.keys ∧
      ((observed.synthesizeRoots ⟨0⟩).workflow ⟨0⟩).relations.toList =
        [⟨rootCode, 1000, ""⟩, ⟨1000, 1001, "a -> b"⟩] := by
  intro look relink observed
  have looks : look.isPossible crossed = true := by decide +kernel
  have relinks : relink.isPossible crossed = true := by decide +kernel
  have relinksLater : relink.isPossible (look.perform crossed) = true := by
    decide +kernel
  have coded : (relink.perform crossed).Coded := by decide +kernel
  have watched := ((Run.Watched.refl Run.toCrossed).look look rfl looks).step
    relink relinks relinksLater
  refine ⟨by decide +kernel, ?_⟩
  rw [(transparent watched coded ⟨0⟩).1]
  decide +kernel

end Session

end Orchestration
