import Orchestration.Proofs.Except
import Orchestration.Proofs.Session.Change
import Orchestration.Proofs.Session.Link
import Orchestration.Proofs.Session.Move

namespace Orchestration

open Orchestration.Action (Respects)
open Session (Calm Change)

/-! Operations in parts. Every operation but a move is a calm change and then
links, one after the other. -/

namespace Session

def linkAll (session : Session) (pairs : List (TaskId × TaskId)) : Session :=
  pairs.foldl (fun session pair => session.link pair.1 pair.1 pair.2) session

@[simp] theorem linkAll_nil (session : Session) :
    session.linkAll [] = session := rfl

@[simp] theorem linkAll_cons (session : Session) (pre post : TaskId)
    (rest : List (TaskId × TaskId)) :
    session.linkAll ((pre, post) :: rest) =
      (session.link pre pre post).linkAll rest := rfl

theorem linkAll_changes {session : Session} {pairs : List (TaskId × TaskId)}
    (present : ∀ pair ∈ pairs,
      session.hasTask pair.1 ∧ session.hasTask pair.2) :
    Relation.ReflTransGen Change session (session.linkAll pairs) := by
  induction pairs generalizing session with
  | nil => exact .refl
  | cons pair rest induction =>
      obtain ⟨first, second⟩ := present pair List.mem_cons_self
      refine .head (.link first second) (induction fun other member => ?_)
      rw [hasTask_link, hasTask_link]
      exact present other (List.mem_cons_of_mem pair member)

theorem precedes_eq (session : Session) (task : TaskId)
    (targets : List TaskId) :
    session.precedes task targets =
      session.linkAll (targets.map fun target => (task, target)) := by
  rw [precedes, linkAll, List.foldl_map]

theorem follows_eq (session : Session) (task : TaskId)
    (targets : List TaskId) :
    session.follows task targets =
      session.linkAll (targets.map fun target => (target, task)) := by
  rw [follows, linkAll, List.foldl_map]
  congr 1
  funext session target
  exact link_post_eq session target task

theorem arrow_eq (session : Session) (direction : Arrow)
    (left right : Operand) :
    session.arrow direction left right =
      session.linkAll (direction.links left right) := by
  cases left with
  | one task =>
      cases direction with
      | right =>
          rw [arrow, precedes_eq]
          simp [Arrow.links, Operand.pairs, Operand.tasks]
      | left =>
          rw [arrow, follows_eq]
          cases right <;>
            simp [Arrow.links, Operand.pairs, Operand.tasks,
              List.map_eq_flatMap]
  | many tasks =>
      cases right with
      | one target =>
          cases direction with
          | right =>
              rw [arrow, follows_eq]
              simp [Arrow.links, Operand.pairs, Operand.tasks,
                List.map_eq_flatMap]
          | left =>
              rw [arrow, precedes_eq]
              simp [Arrow.links, Operand.pairs, Operand.tasks]
      | many targets => rfl

theorem Arrow.mem_links {direction : Arrow} {left right : Operand}
    {pair : TaskId × TaskId} (member : pair ∈ direction.links left right) :
    pair.1 ∈ left.tasks ∧ pair.2 ∈ right.tasks ∨
      pair.1 ∈ right.tasks ∧ pair.2 ∈ left.tasks := by
  have ofPairs : ∀ before after : Operand, pair ∈ before.pairs after →
      pair.1 ∈ before.tasks ∧ pair.2 ∈ after.tasks := by
    intro before after member
    simp only [Operand.pairs, List.mem_flatMap, List.mem_map] at member
    obtain ⟨pre, first, post, second, rfl⟩ := member
    exact ⟨first, second⟩
  rw [links.eq_def] at member
  split at member
  · cases member
  · cases direction with
    | right => exact .inl (ofPairs left right member)
    | left => exact .inr (ofPairs right left member)

theorem linkBranches_eq (session : Session) (id : TaskId) :
    session.linkBranches id =
      session.linkAll
        ((session.task id).kind.branchTasks.map fun target => (id, target)) := by
  rw [linkBranches]
  cases (session.task id).kind <;> simp [TaskKind.branchTasks, precedes_eq]

theorem task_enlisted_self {session : Session} {id : WorkflowId} {task : Task}
    (free : (session.workflow id).tasks.contains task.code = false) :
    (session.enlisted id task).task (session.newTask task).1 =
      { task with workflow := some id } := by
  rw [enlisted, task_addTask_self, task_newTask_self]
  · rw [task_newTask_self]
    exact free
  · exact hasTask_newTask_iff.mpr (.inr rfl)

section Register

variable {session : Session} {id : WorkflowId} {task : Task}

private theorem code_newTask (session : Session) (task : Task) :
    ((session.newTask task).2.task (session.newTask task).1).code =
      task.code := by
  rw [task_newTask_self]

theorem register_of_taken
    (taken : (session.workflow id).tasks.contains task.code) :
    session.register id task =
      (.error (.duplicateTask task.name task.code (session.workflow id).name),
        session) := by
  rw [← code_newTask session task] at taken
  have same : (session.newTask task).2.addTask id (session.newTask task).1 =
      (false, (session.newTask task).2) := addTask_of_taken taken
  rw [register]
  simp only [same]

theorem register_of_free
    (free : (session.workflow id).tasks.contains task.code = false) :
    session.register id task =
      (.ok (session.newTask task).1,
        (session.enlisted id task).linkBranches (session.newTask task).1) := by
  rw [← code_newTask session task] at free
  have added : ((session.newTask task).2.addTask id
      (session.newTask task).1).1 = true := by
    rw [addTask_of_free free]
  have same : (session.newTask task).2.addTask id
      (session.newTask task).1 = (true, session.enlisted id task) :=
    Prod.ext added rfl
  rw [register]
  simp only [same]

end Register

end Session

theorem WorkflowDraft.build_ok {draft : WorkflowDraft} {workflow : Workflow}
    (built : draft.build = .ok workflow) :
    workflow.tasks = .empty ∧ workflow.relations = .empty ∧
      workflow.gateway = draft.gateway ∧
      workflow.parameters = draft.parameters := by
  rw [WorkflowDraft.build] at built
  iterate 7
    obtain ⟨_, -, built⟩ := Except.bind_ok built
  cases built
  exact ⟨rfl, rfl, rfl, rfl⟩

theorem TaskKind.of_resolveBody {kind resolved : TaskKind}
    {plugin : Option Plugin}
    (completed : (kind.resolveBody plugin).run = .ok resolved) :
    resolved = kind ∨ ∃ body, resolved = kind.withBody body := by
  rw [resolveBody] at completed
  generalize kind.bodyPlan plugin.isSome = plan at completed
  cases plan with
  | keep =>
      cases completed
      exact .inl rfl
  | read path =>
      cases plugin with
      | none => cases completed
      | some plugin =>
          obtain ⟨body, -, completed⟩ := Except.bind_ok completed
          cases completed
          exact .inr ⟨body, rfl⟩
  | refuse suffix => cases completed

theorem TaskKind.branchTasks_withBody (kind : TaskKind) (body : String) :
    (kind.withBody body).branchTasks = kind.branchTasks := by
  cases kind <;> rfl

namespace TaskDraft

theorem resolvedKind_ok_iff {draft : TaskDraft} {workflow : Workflow}
    {kind : TaskKind} :
    (draft.resolvedKind workflow).run = .ok kind ↔
      draft.kind.validate = .ok () ∧
        (draft.kind.resolveBody (draft.plugin <|> workflow.plugin)).run =
          .ok kind := by
  rw [resolvedKind, Reading.run_bind, Reading.run]
  cases draft.kind.validate with
  | error error =>
      exact iff_of_false (fun same => by cases same)
        (fun both => by cases both.1)
  | ok _ => exact (and_iff_right rfl).symm

theorem branchTasks_resolvedKind {draft : TaskDraft} {workflow : Workflow}
    {kind : TaskKind} (resolved : (draft.resolvedKind workflow).run = .ok kind) :
    kind.branchTasks = draft.kind.branchTasks := by
  obtain rfl | ⟨body, rfl⟩ :=
    TaskKind.of_resolveBody (resolvedKind_ok_iff.mp resolved).2
  · rfl
  · exact draft.kind.branchTasks_withBody body

theorem reading_of_homeless {draft : TaskDraft} {session : Session}
    {error : Error} (homeless : draft.workflowIn session = .error error) :
    draft.reading session = .done (.error error) := by
  rw [reading, homeless]
  rfl

theorem reading_of_found {draft : TaskDraft} {session : Session}
    {id : WorkflowId} (found : draft.workflowIn session = .ok id) :
    draft.reading session =
      draft.resolvedKind (session.workflow id) >>= fun kind =>
        pure (id, kind) := by
  rw [reading, found]
  rfl

theorem reading_ok {draft : TaskDraft} {session : Session} {id : WorkflowId}
    {kind : TaskKind} (settled : (draft.reading session).run = .ok (id, kind)) :
    draft.workflowIn session = .ok id ∧
      (draft.resolvedKind (session.workflow id)).run = .ok kind := by
  cases found : draft.workflowIn session with
  | error error =>
      rw [reading_of_homeless found] at settled
      cases settled
  | ok other =>
      rw [reading_of_found found, Reading.run_bind] at settled
      obtain ⟨made, resolved, settled⟩ := Except.bind_ok settled
      cases settled
      exact ⟨rfl, resolved⟩

def plan (draft : TaskDraft) : Action (WorkflowId × Task) := do
  let (id, kind) ← Action.ofExcept (draft.reading (← get)).run
  let workflow := (← get).workflow id
  let identity ←
    Action.ask workflow.gateway
      (.taskIdentity workflow.project workflow.name draft.name)
  return (id, draft.task kind workflow.gateway identity)

theorem build_eq (draft : TaskDraft) :
    draft.build =
      draft.plan >>= fun planned => fun session =>
        session.register planned.1 planned.2 := by
  simp only [build, finish, plan, bind_assoc, pure_bind]

theorem plan_respects (draft : TaskDraft) :
    Respects Session.Served draft.plan :=
  .bind .get fun _ => .bind (.ofExcept _) fun _ => .bind .get fun _ =>
    .bind (.ask _ _) fun _ => .pure _

theorem plan_ok {draft : TaskDraft} {session middle : Session}
    {id : WorkflowId} {task : Task}
    (completed : draft.plan.run session = (.ok (id, task), middle)) :
    draft.workflowIn session = .ok id ∧ ∃ kind gateway identity,
      kind.branchTasks = draft.kind.branchTasks ∧
        task = draft.task kind gateway identity := by
  obtain ⟨_, _, got, completed⟩ := Action.bind_ok completed
  obtain ⟨rfl, rfl⟩ := Action.get_ok got
  obtain ⟨⟨owner, kind⟩, _, read, completed⟩ := Action.bind_ok completed
  obtain ⟨settled, rfl⟩ := Action.ofExcept_ok read
  obtain ⟨found, resolved⟩ := reading_ok settled
  obtain ⟨_, _, got, completed⟩ := Action.bind_ok completed
  obtain ⟨rfl, rfl⟩ := Action.get_ok got
  obtain ⟨identity, _, -, completed⟩ := Action.bind_ok completed
  obtain ⟨same, -⟩ := Action.pure_ok completed
  cases same
  exact ⟨found, kind, _, identity, branchTasks_resolvedKind resolved, rfl⟩

theorem isAlive_of_workflowIn {draft : TaskDraft} {session : Session}
    {id : WorkflowId} (alive : draft.workflow.all session.isAlive)
    (found : draft.workflowIn session = .ok id) : session.isAlive id := by
  rw [workflowIn] at found
  cases given : draft.workflow with
  | some workflow =>
      rw [given] at alive found
      cases found
      exact alive
  | none =>
      cases scopes : session.scopes with
      | nil => simp [given, scopes] at found
      | cons innermost outer =>
          have same : innermost = id := by simpa [given, scopes] using found
          apply Session.isAlive_of_inScope
          simp [scopes, same]

/-- A build either changes nothing but gateways or puts a new task into a
workflow and then links it with the tasks of its branches. -/
theorem build_cases {draft : TaskDraft} {session : Session}
    (alive : draft.workflow.all session.isAlive) :
    (∃ error after, draft.build.run session = (.error error, after) ∧
      Relation.ReflTransGen Calm session after) ∨
    ∃ id middle, Relation.ReflTransGen Calm session middle ∧
      middle.hasTask id ∧
      draft.build.run session =
        (.ok id, middle.linkAll
          (draft.kind.branchTasks.map fun target => (id, target))) := by
  have served := draft.plan_respects session
  have calm := Session.respects_of_served draft.plan_respects session
  rw [build_eq, Action.run_bind]
  rcases planned : draft.plan.run session with ⟨outcome, middle⟩
  rw [planned] at served calm
  cases outcome with
  | error error => exact .inl ⟨error, middle, rfl, calm⟩
  | ok plan =>
      obtain ⟨id, task⟩ := plan
      obtain ⟨found, kind, gateway, identity, branches, rfl⟩ :=
        plan_ok planned
      cases taken : (middle.workflow id).tasks.contains
          (draft.task kind gateway identity).code with
      | true =>
          exact .inl ⟨_, middle, Session.register_of_taken taken, calm⟩
      | false =>
          have registered := Session.register_of_free taken
          have aliveThen : middle.isAlive id := by
            rw [(Session.sameObjects_of_served served).isAlive]
            exact isAlive_of_workflowIn alive found
          have enlist : Calm middle
              (middle.enlisted id (draft.task kind gateway identity)) :=
            .enlist aliveThen taken rfl rfl rfl
          have present := Session.hasTask_enlisted_fst middle id
            (draft.task kind gateway identity)
          rw [Session.linkBranches_eq, Session.task_enlisted_self taken]
            at registered
          rw [← branches]
          exact .inr ⟨_, _, calm.tail enlist, present, registered⟩

end TaskDraft

namespace Operation

private theorem without_links {session middle : Session}
    {operation : Operation}
    (calm : Relation.ReflTransGen Calm session middle)
    (performed : operation.perform session = middle)
    (unlinked : operation.links session = []) :
    ∃ middle, Relation.ReflTransGen Calm session middle ∧
      operation.perform session = middle.linkAll (operation.links session) ∧
      ∀ pair ∈ operation.links session,
        middle.hasTask pair.1 ∧ middle.hasTask pair.2 :=
  ⟨middle, calm, by rw [unlinked, performed]; rfl, by simp [unlinked]⟩

private theorem of_steady {session : Session} {operation : Operation}
    (steady : Session.Steady session (operation.perform session))
    (unlinked : operation.links session = []) :
    ∃ middle, Relation.ReflTransGen Calm session middle ∧
      operation.perform session = middle.linkAll (operation.links session) ∧
      ∀ pair ∈ operation.links session,
        middle.hasTask pair.1 ∧ middle.hasTask pair.2 :=
  without_links (.single (.steady steady)) rfl unlinked

/-- An operation either moves a task or is calm and then links tasks. -/
theorem perform_cases {session : Session} {operation : Operation}
    (possible : operation.isPossible session = true) :
    (∃ id task, operation = .addTask id task) ∨
    ∃ middle, Relation.ReflTransGen Calm session middle ∧
      operation.perform session = middle.linkAll (operation.links session) ∧
      ∀ pair ∈ operation.links session,
        middle.hasTask pair.1 ∧ middle.hasTask pair.2 := by
  cases operation with
  | openGateway server =>
      refine .inr (of_steady ?_ rfl)
      exact Session.steady_of_sameObjects ⟨rfl, rfl, rfl⟩
  | serve id server =>
      refine .inr (of_steady ?_ rfl)
      exact Session.steady_of_sameObjects ⟨rfl, rfl, rfl⟩
  | clock now =>
      refine .inr (of_steady ?_ rfl)
      exact Session.steady_of_sameObjects ⟨rfl, rfl, rfl⟩
  | openWorkflow draft =>
      right
      cases built : draft.build with
      | ok workflow =>
          obtain ⟨noTasks, noRelations, -⟩ := WorkflowDraft.build_ok built
          apply without_links (.single (.openWorkflow _ noTasks noRelations))
          · simp only [perform, built]
          · rfl
      | error error =>
          apply without_links .refl
          · simp only [perform, built]
          · rfl
  | hold id =>
      refine .inr (of_steady ?_ rfl)
      exact Session.steady_updateWorkflow (fun _ _ => .inr possible)
        (fun _ => rfl) fun _ => rfl
  | release id =>
      refine .inr (of_steady ?_ rfl)
      exact Session.steady_updateWorkflow (fun _ held => .inl (by simp at held))
        (fun _ => rfl) fun _ => rfl
  | enter id =>
      refine .inr (of_steady ?_ rfl)
      exact Session.steady_enter possible
  | leave =>
      refine .inr (of_steady ?_ rfl)
      exact Session.steady_leave session
  | setParameter id name value =>
      refine .inr (of_steady ?_ rfl)
      exact Session.steady_updateWorkflow (fun _ => .inl) (fun _ => rfl)
        fun _ => rfl
  | build draft =>
      obtain ⟨alive, branches⟩ := Bool.and_eq_true_iff.mp possible
      rw [List.all_eq_true] at branches
      rcases TaskDraft.build_cases alive with
        ⟨error, after, built, calm⟩ | ⟨id, middle, calm, present, built⟩
      · right
        apply without_links calm
        · rw [perform, built]
        · simp only [links, built]
      · right
        refine ⟨middle, calm, by simp only [perform, links, built], ?_⟩
        simp only [links, built, List.forall_mem_map]
        exact fun target member =>
          ⟨present, Session.hasTask_of_calm calm (branches target member)⟩
  | addInput task name value =>
      refine .inr (of_steady ?_ rfl)
      apply Session.steady_updateTask
      exact fun _ => rfl
  | addOutput task name value =>
      refine .inr (of_steady ?_ rfl)
      apply Session.steady_updateTask
      exact fun _ => rfl
  | addTask id task => exact .inl ⟨id, task, rfl⟩
  | precedes task targets =>
      obtain ⟨present, others⟩ := Bool.and_eq_true_iff.mp possible
      rw [List.all_eq_true] at others
      refine .inr ⟨session, .refl, Session.precedes_eq _ _ _, ?_⟩
      simp only [links, List.forall_mem_map]
      exact fun target member => ⟨present, others target member⟩
  | follows task targets =>
      obtain ⟨present, others⟩ := Bool.and_eq_true_iff.mp possible
      rw [List.all_eq_true] at others
      refine .inr ⟨session, .refl, Session.follows_eq _ _ _, ?_⟩
      simp only [links, List.forall_mem_map]
      exact fun target member => ⟨others target member, present⟩
  | arrow direction left right =>
      obtain ⟨lefts, rights⟩ := Bool.and_eq_true_iff.mp possible
      rw [List.all_eq_true] at lefts rights
      refine .inr ⟨session, .refl, Session.arrow_eq _ _ _ _, ?_⟩
      intro pair member
      rcases Session.Arrow.mem_links member with
        ⟨first, second⟩ | ⟨first, second⟩
      · exact ⟨lefts _ first, rights _ second⟩
      · exact ⟨rights _ first, lefts _ second⟩
  | synthesizeRoots id =>
      refine .inr (of_steady ?_ rfl)
      exact Session.steady_synthesizeRoots session id
  | definitionList id =>
      have calm := Session.respects_of_looked (Session.definitionList_looked id)
      exact .inr (without_links (calm session) rfl rfl)
  | relationList id =>
      have calm := Session.respects_of_looked (Session.relationList_looked id)
      exact .inr (without_links (calm session) rfl rfl)
  | definition id =>
      have calm := Session.respects_of_looked (Session.definition_looked id)
      exact .inr (without_links (calm session) rfl rfl)
  | summary id =>
      have calm := Session.respects_of_looked (Session.summary_looked id)
      exact .inr (without_links (calm session) rfl rfl)
  | submit id =>
      exact .inr (without_links (Session.submit_calm id session) rfl rfl)
  | start id =>
      exact .inr (without_links (Session.start_calm id session) rfl rfl)
  | submitAndStart id =>
      exact .inr
        (without_links (Session.submitAndStart_calm id session) rfl rfl)

theorem perform_changes {session : Session} {operation : Operation}
    (possible : operation.isPossible session = true) :
    Relation.ReflTransGen Change session (operation.perform session) := by
  rcases perform_cases possible with
    ⟨id, task, rfl⟩ | ⟨middle, calm, performed, present⟩
  · obtain ⟨alive, present⟩ := Bool.and_eq_true_iff.mp possible
    exact .single (.move alive present)
  · rw [performed]
    have calm := Relation.ReflTransGen.mono (fun _ _ => Change.calm) _ _ calm
    exact calm.trans (Session.linkAll_changes present)

end Operation

theorem Session.invariant_of_changes {invariant : Session → Prop}
    (kept : ∀ {before after}, invariant before → Change before after →
      invariant after)
    {before after : Session} (holds : invariant before)
    (changes : Relation.ReflTransGen Change before after) :
    invariant after := by
  induction changes with
  | refl => exact holds
  | tail _ change induction => exact kept induction change

/-- What holds at the start and every change keeps holds after every run. -/
theorem Run.invariant {invariant : Session → Prop}
    (start : ∀ now, invariant { now := now })
    (kept : ∀ {before after}, invariant before → Change before after →
      invariant after)
    (run : Run session) : invariant session := by
  induction run with
  | start now => exact start now
  | step run operation possible induction =>
      exact Session.invariant_of_changes kept induction
        (Operation.perform_changes possible)

end Orchestration
