import Orchestration.Proofs.Gateway.History
import Orchestration.Proofs.Session.Building

namespace Orchestration

open Gateway (History Request Server)
open Orchestration.Action (Respects)

/-! What operations keep: workflows as they were opened, tasks as they were
built, and the codes that gateways hold for tasks. -/

namespace Task

/-- The task as it was built. -/
def original (task : Task) : Task :=
  { task with
    workflow := none
    predecessors := .empty
    successors := .empty
    inputs := .empty
    outputs := .empty }

theorem field_of_original (field : Task → β)
    (kept : ∀ task : Task, field task.original = field task)
    {task other : Task} (same : task.original = other.original) :
    field task = field other := by
  rw [← kept, same, kept]

end Task

namespace Workflow

/-- The workflow as it was opened, but for its parameters. -/
def original (workflow : Workflow) : Workflow :=
  { workflow with
    tasks := .empty
    relations := .empty
    parameters := .empty
    code := none
    held := true }

end Workflow

namespace Session

/-- Workflows stay at their gateways, where codes of tasks are kept, and a new
workflow has a gateway that is there. -/
structure Hosts (before after : Session) : Prop where
  hasGateway : ∀ id, before.hasGateway id → after.hasGateway id
  gateway : ∀ id, (before.gateway id).Grows (after.gateway id)
  hasWorkflow : ∀ id, before.hasWorkflow id → after.hasWorkflow id
  workflow : ∀ id, before.hasWorkflow id →
    (after.workflow id).original = (before.workflow id).original
  opened : ∀ id, after.hasWorkflow id →
    before.hasWorkflow id ∨ after.hasGateway (after.workflow id).gateway

/-- No task is new, and none is another one. -/
structure Keeps (before after : Session) : Prop where
  hasTask : ∀ id, after.hasTask id = before.hasTask id
  task : ∀ id, (after.task id).original = (before.task id).original

/-- Moreover, all workflows have the tasks that they had. -/
structure Stays (before after : Session) : Prop
    extends Hosts before after, Keeps before after where
  tasks : ∀ id, (after.workflow id).tasks = (before.workflow id).tasks

variable {session before middle after : Session}

namespace Hosts

theorem field (hosts : Hosts before after) (field : Workflow → β)
    (kept : ∀ workflow : Workflow, field workflow.original = field workflow)
    {id : WorkflowId} (present : before.hasWorkflow id) :
    field (after.workflow id) = field (before.workflow id) := by
  rw [← kept, hosts.workflow id present, kept]

theorem refl (session : Session) : Hosts session session where
  hasGateway _ present := present
  gateway _ := .refl _
  hasWorkflow _ present := present
  workflow _ _ := rfl
  opened _ present := .inl present

theorem trans (first : Hosts before middle) (second : Hosts middle after) :
    Hosts before after where
  hasGateway id present := second.hasGateway id (first.hasGateway id present)
  gateway id := (first.gateway id).trans (second.gateway id)
  hasWorkflow id present :=
    second.hasWorkflow id (first.hasWorkflow id present)
  workflow id present :=
    (second.workflow id (first.hasWorkflow id present)).trans
      (first.workflow id present)
  opened id present := by
    rcases second.opened id present with before | hosted
    · refine (first.opened id before).imp_right fun hosted => ?_
      rw [second.field Workflow.gateway (fun _ => rfl) before]
      exact second.hasGateway _ hosted
    · exact .inr hosted

end Hosts

namespace Keeps

theorem field (keeps : Keeps before after) (field : Task → β)
    (kept : ∀ task : Task, field task.original = field task) (id : TaskId) :
    field (after.task id) = field (before.task id) :=
  Task.field_of_original field kept (keeps.task id)

theorem of_same (tasks : after.tasks = before.tasks) : Keeps before after where
  hasTask id := by rw [Session.hasTask, tasks, Session.hasTask]
  task id := by rw [Session.task, tasks, Session.task]

theorem trans (first : Keeps before middle) (second : Keeps middle after) :
    Keeps before after where
  hasTask id := (second.hasTask id).trans (first.hasTask id)
  task id := (second.task id).trans (first.task id)

end Keeps

theorem Stays.refl (session : Session) : Stays session session :=
  { Hosts.refl session, Keeps.of_same rfl with tasks := fun _ => rfl }

theorem Stays.trans (first : Stays before middle)
    (second : Stays middle after) : Stays before after :=
  { first.toHosts.trans second.toHosts,
    first.toKeeps.trans second.toKeeps with
    tasks := fun id => (second.tasks id).trans (first.tasks id) }

theorem stays_of_run {action : Action α} (respects : Respects Stays action)
    (session : Session) : Stays session (action.run session).2 :=
  respects.run .refl .trans session

theorem keeps_updateTask {update : Task → Task}
    (kept : ∀ task, (update task).original = task.original) (id : TaskId) :
    Keeps session (session.updateTask id update) where
  hasTask := hasTask_updateTask id update
  task := task_updateTask_kept Task.original kept id

theorem stays_updateTask {update : Task → Task}
    (kept : ∀ task, (update task).original = task.original) (id : TaskId) :
    Stays session (session.updateTask id update) :=
  { Hosts.refl session, keeps_updateTask kept id with tasks := fun _ => rfl }

theorem hosts_updateWorkflow {update : Workflow → Workflow}
    (kept : ∀ workflow, (update workflow).original = workflow.original)
    (id : WorkflowId) :
    Hosts session (session.updateWorkflow id update) where
  hasGateway _ present := present
  gateway _ := .refl _
  hasWorkflow other present := by rwa [hasWorkflow_updateWorkflow]
  workflow other _ :=
    workflow_updateWorkflow_kept Workflow.original kept id other
  opened other present := by
    rw [hasWorkflow_updateWorkflow] at present
    exact .inl present

theorem stays_updateWorkflow {update : Workflow → Workflow}
    (kept : ∀ workflow, (update workflow).original = workflow.original)
    (tasks : ∀ workflow, (update workflow).tasks = workflow.tasks)
    (id : WorkflowId) : Stays session (session.updateWorkflow id update) :=
  { hosts_updateWorkflow kept id, Keeps.of_same rfl with
    tasks := workflow_updateWorkflow_kept Workflow.tasks tasks id }

theorem stays_withServer {id : GatewayId} {server : Server}
    (grows : (session.gateway id).Grows server) :
    Stays session (session.withServer id server) where
  hasGateway other present := by rwa [withServer, hasGateway_updateGateway]
  gateway other := by
    rcases gateway_updateGateway_cases session id (fun _ => server) other with
      same | ⟨rfl, same⟩
    · rw [withServer, same]
      exact .refl _
    · rw [withServer, same]
      exact grows
  hasWorkflow _ present := present
  workflow _ _ := rfl
  opened _ present := .inl present
  hasTask _ := rfl
  task _ := rfl
  tasks _ := rfl

theorem stays_ask (id : GatewayId) (request : Request α) :
    Respects Stays (Action.ask id request) := fun session =>
  .single (stays_withServer (.answer (session.gateway id) request))

theorem stays_addGateway {server : Server} (faithful : server.Faithful) :
    Stays session (session.addGateway server).2 where
  hasGateway id present := by
    simp only [Session.hasGateway, addGateway, decide_eq_true_eq,
      List.length_append] at present ⊢
    omega
  gateway id := by
    by_cases new : id = (session.addGateway server).1
    · subst new
      have absent : session.gateway (session.addGateway server).1 = {} := by
        simp [addGateway, Session.gateway]
        rfl
      rw [gateway_addGateway_self, absent]
      refine ⟨fun key code held => ?_, fun _ => faithful⟩
      cases held
    · rw [gateway_addGateway_other new]
      exact .refl _
  hasWorkflow _ present := present
  workflow _ _ := rfl
  opened _ present := .inl present
  hasTask _ := rfl
  task _ := rfl
  tasks _ := rfl

theorem stays_addWorkflow {workflow : Workflow}
    (hosted : session.hasGateway workflow.gateway)
    (noTasks : workflow.tasks = .empty) :
    Stays session (session.addWorkflow workflow).2 where
  hasGateway _ present := present
  gateway _ := .refl _
  hasWorkflow id present := hasWorkflow_addWorkflow_iff.mpr (.inl present)
  workflow id present := by
    have old : id ≠ (session.addWorkflow workflow).1 := by
      rintro rfl
      rw [hasWorkflow_addWorkflow_fst] at present
      cases present
    rw [workflow_addWorkflow_other old]
  opened id present := by
    refine (hasWorkflow_addWorkflow_iff.mp present).imp_right ?_
    rintro rfl
    rwa [workflow_addWorkflow_self]
  hasTask _ := rfl
  task _ := rfl
  tasks id := by
    by_cases new : id = (session.addWorkflow workflow).1
    · subst new
      rw [workflow_addWorkflow_self, noTasks,
        workflow_absent (hasWorkflow_addWorkflow_fst session workflow)]
      rfl
    · rw [workflow_addWorkflow_other new]

theorem stays_link (session : Session) (pre post : TaskId) :
    Stays session (session.link pre pre post) := by
  have remembered : Stays session (session.remember pre post) := by
    refine .trans (stays_updateTask ?_ pre) (stays_updateTask ?_ post)
    · exact fun _ => rfl
    · exact fun _ => rfl
  rcases link_cases session pre post with ⟨id, -, -, same⟩ | ⟨-, same⟩
  · rw [same]
    refine remembered.trans (stays_updateWorkflow ?_ ?_ id)
    · exact fun _ => rfl
    · exact fun _ => rfl
  · rw [same]
    exact remembered

theorem stays_linkAll (session : Session) (pairs : List (TaskId × TaskId)) :
    Stays session (session.linkAll pairs) := by
  induction pairs generalizing session with
  | nil => exact .refl session
  | cons pair rest induction =>
      exact (stays_link session pair.1 pair.2).trans (induction _)

theorem hosts_addTask (session : Session) (id : WorkflowId) (task : TaskId) :
    Hosts session (session.addTask id task).2 := by
  have withdrawn : Hosts session (session.withdraw id task) := by
    rcases withdraw_cases session id task with same | ⟨previous, -, -, same⟩
    · rw [same]
      exact .refl session
    · rw [same]
      apply hosts_updateWorkflow
      exact fun _ => rfl
  rcases addTask_cases session id task with same | ⟨free, -⟩
  · rw [same]
    exact .refl session
  · rw [addTask_of_free free]
    dsimp only
    refine withdrawn.trans (.trans (hosts_updateWorkflow ?_ id)
      (stays_updateTask ?_ task).toHosts)
    · exact fun _ => rfl
    · exact fun _ => rfl

theorem keeps_addTask (session : Session) (id : WorkflowId) (task : TaskId) :
    Keeps session (session.addTask id task).2 where
  hasTask := hasTask_addTask
  task := task_addTask_kept Task.original (fun _ _ => rfl) session id task

/-- One task is new, and it is in one of the workflows under its code. -/
structure Adds (before after : Session) (id : WorkflowId) (new : TaskId)
    (made : Task) : Prop where
  fresh : before.hasTask new = false
  hasTask : ∀ other, after.hasTask other ↔ before.hasTask other ∨ other = new
  old : ∀ other, before.hasTask other →
    (after.task other).original = (before.task other).original
  content : (after.task new).original = made.original
  tasks : ∀ other, (after.workflow other).tasks =
    if other = id then (before.workflow other).tasks.insert made.code new
    else (before.workflow other).tasks

namespace Adds

variable {id : WorkflowId} {new : TaskId} {made : Task}

theorem old_field (adds : Adds before after id new made) (field : Task → β)
    (kept : ∀ task : Task, field task.original = field task) {other : TaskId}
    (present : before.hasTask other) :
    field (after.task other) = field (before.task other) :=
  Task.field_of_original field kept (adds.old other present)

theorem new_field (adds : Adds before after id new made) (field : Task → β)
    (kept : ∀ task : Task, field task.original = field task) :
    field (after.task new) = field made :=
  Task.field_of_original field kept adds.content

theorem of_stays (stays : Stays before middle)
    (adds : Adds middle after id new made) :
    Adds before after id new made where
  fresh := by rw [← stays.hasTask, adds.fresh]
  hasTask other := by rw [adds.hasTask, stays.hasTask]
  old other present := by
    rw [← stays.task]
    exact adds.old other (by rwa [stays.hasTask])
  content := adds.content
  tasks other := by rw [adds.tasks, stays.tasks]

theorem stays (adds : Adds before middle id new made)
    (stays : Stays middle after) : Adds before after id new made where
  fresh := adds.fresh
  hasTask other := by rw [stays.hasTask, adds.hasTask]
  old other present := by rw [stays.task, adds.old other present]
  content := by rw [stays.task, adds.content]
  tasks other := by rw [stays.tasks, adds.tasks]

theorem listed_cases (adds : Adds before after id new made)
    {other : WorkflowId} {code : Int} {task : TaskId}
    (listed : (after.workflow other).tasks.find? code = some task) :
    other = id ∧ code = made.code ∧ task = new ∨
      (before.workflow other).tasks.find? code = some task := by
  rw [adds.tasks] at listed
  split at listed
  next same =>
    by_cases isNew : code = made.code
    · subst isNew
      rw [SortedMap.find?_insert_self] at listed
      cases listed
      exact .inl ⟨same, rfl, rfl⟩
    · rw [SortedMap.find?_insert_other _ isNew] at listed
      exact .inr listed
  next => exact .inr listed

end Adds

section Enlisted

variable {id : WorkflowId} {task : Task}

theorem adds_enlisted (present : session.hasWorkflow id)
    (free : (session.workflow id).tasks.contains task.code = false)
    (unowned : task.workflow = none) :
    Adds session (session.enlisted id task) id (session.newTask task).1
      task where
  fresh := hasTask_newTask_fst session task
  hasTask other := hasTask_enlisted_iff
  old other before := by
    have different : other ≠ (session.newTask task).1 := by
      rintro rfl
      rw [hasTask_newTask_fst] at before
      cases before
    rw [enlisted, task_addTask_other different, task_newTask_other different]
  content := by
    rw [task_enlisted_self free]
    rfl
  tasks other := by
    have code : ((session.newTask task).2.task (session.newTask task).1).code =
        task.code := by rw [task_newTask_self]
    by_cases same : other = id
    · subst same
      rw [← code] at free
      rw [if_pos rfl, enlisted, workflow_addTask_self free present, code]
      rfl
    · have notOwner : (session.newTask task).2.owner (session.newTask task).1 ≠
          some other := by
        rw [owner, task_newTask_self, unowned]
        exact (Option.some_ne_none other).symm
      rw [if_neg same, enlisted, workflow_addTask_other same notOwner]
      rfl

theorem hosts_enlisted (session : Session) (id : WorkflowId) (task : Task) :
    Hosts session (session.enlisted id task) := by
  have created : Hosts session (session.newTask task).2 :=
    { Hosts.refl session with }
  exact created.trans (hosts_addTask _ _ _)

end Enlisted

theorem stays_of_looked (looked : Looked before after) :
    Stays before after := by
  cases looked with
  | queried queried =>
      obtain ⟨id, methods, -, rfl⟩ := queried
      rw [← before.updateGateway_gateway id (·.log methods)]
      exact stays_withServer (.log _ methods)
  | rooted id =>
      apply stays_updateWorkflow
      · exact fun _ => rfl
      · exact fun _ => rfl

theorem stays_of_looks {action : Action α}
    (respects : Respects Looked action) : Respects Stays action :=
  respects.mono fun _ _ => stays_of_looked

theorem checkVersion_stays (id : GatewayId) :
    Respects Stays (checkVersion id) := fun session => by
  have grows : (session.gateway id).Grows
      (Gateway.checkVersion (session.gateway id)).2 := by
    rw [Gateway.checkVersion_snd]
    exact .log _ _
  exact .single (stays_withServer grows)

theorem uploadAll_stays (workflow : Workflow) (resources : List Resource) :
    Respects Stays (uploadAll workflow resources) := by
  induction resources with
  | nil => exact .pure _
  | cons resource rest induction =>
      rw [uploadAll, exchange_save]
      exact .bind (.bind (.ofExcept _) fun _ => stays_ask _ _)
        fun _ => induction

theorem start_stays (id : WorkflowId) : Respects Stays (start id) :=
  .bind .get fun _ => stays_ask _ _

theorem submit_stays (id : WorkflowId) : Respects Stays (submit id) := by
  refine .bind .get fun session => .bind (checkVersion_stays _) fun _ => ?_
  refine .bind (.bind (stays_ask _ _) fun _ => stays_ask _ _) fun _ => ?_
  refine .bind .get fun _ => .bind (.ofExcept _) fun _ => ?_
  refine .bind (uploadAll_stays _ _) fun _ => ?_
  refine .bind (stays_of_looks (definition_looked id)) fun _ => ?_
  refine .bind (stays_ask _ _) fun code => ?_
  refine .bind (.modify fun _ => ?_) fun _ => .pure _
  apply stays_updateWorkflow
  · exact fun _ => rfl
  · exact fun _ => rfl

theorem submitAndStart_stays (id : WorkflowId) :
    Respects Stays (submitAndStart id) :=
  .bind (submit_stays id) fun _ => .bind (start_stays id) fun _ => .pure _

end Session

namespace TaskDraft

open Session (Adds Hosts Stays)

variable {draft : TaskDraft} {session after : Session} {task : TaskId}

theorem asked_stays (draft : TaskDraft) (session : Session) (id : WorkflowId) :
    Stays session (draft.asked session id) :=
  Session.stays_withServer (.answer _ _)

theorem build_ok (built : draft.build.run session = (.ok task, after)) :
    ∃ id kind identity,
      draft.workflowIn session = .ok id ∧
        (draft.resolvedKind (session.workflow id)).run = .ok kind ∧
        (draft.reply session id).1 = .ok identity ∧
        (session.workflow id).tasks.contains identity.code = false ∧
        Hosts (draft.asked session id) after ∧
        (session.hasWorkflow id → Adds session after id task
          (draft.task kind (session.workflow id).gateway identity)) := by
  rw [build_run] at built
  cases found : draft.workflowIn session with
  | error error => simp [found] at built
  | ok id =>
      cases resolved : (draft.resolvedKind (session.workflow id)).run with
      | error error => simp [found, resolved] at built
      | ok kind =>
          cases replied : (draft.reply session id).1 with
          | error error => simp [found, resolved, replied] at built
          | ok identity =>
              simp only [found, resolved, replied] at built
              have asked := draft.asked_stays session id
              cases taken : (session.workflow id).tasks.contains
                  identity.code with
              | true =>
                  rw [← asked.tasks] at taken
                  rw [Session.register_of_taken taken] at built
                  cases built
              | false =>
                  refine ⟨id, kind, identity, rfl, resolved, replied, taken, ?_⟩
                  rw [← asked.tasks] at taken
                  rw [Session.register_of_free taken,
                    Session.linkBranches_eq] at built
                  cases built
                  refine ⟨(Session.hosts_enlisted _ _ _).trans
                    (Session.stays_linkAll _ _).toHosts, fun present => ?_⟩
                  refine .of_stays asked
                    (.stays ?_ (Session.stays_linkAll _ _))
                  apply Session.adds_enlisted _ taken
                  · rfl
                  · exact asked.hasWorkflow id present

theorem stays_of_failed {error : Error}
    (failed : draft.build.run session = (.error error, after)) :
    Stays session after := by
  cases build_failed_iff.mp failed with
  | homeless | invalid | unread => exact .refl session
  | unidentified _ _ replied =>
      rw [← asked_of_unanswered replied]
      exact draft.asked_stays session _
  | taken => exact draft.asked_stays session _

end TaskDraft

namespace Operation

/-- The operation uses gateways in memory that are there: they are new at first,
and then asked and prepared. -/
def Regular (session : Session) : Operation → Prop
  | openGateway server => Nonempty (History server)
  | serve id server => (session.gateway id).Advance server
  | openWorkflow draft => session.hasGateway draft.gateway
  | _ => True

def isBuild : Operation → Bool
  | build _ => true
  | _ => false

def isAddTask : Operation → Bool
  | addTask _ _ => true
  | _ => false

theorem isBuild_iff {operation : Operation} :
    operation.isBuild = true ↔ ∃ draft, operation = .build draft := by
  cases operation <;> simp [isBuild]

open Session (Hosts Keeps Stays)

variable {session : Session}

theorem stays_perform {operation : Operation}
    (regular : operation.Regular session) (unbuilt : operation.isBuild = false)
    (unmoved : operation.isAddTask = false) :
    Stays session (operation.perform session) := by
  cases operation with
  | openGateway server =>
      obtain ⟨history⟩ := regular
      exact Session.stays_addGateway history.faithful
  | serve id server => exact Session.stays_withServer (.advance regular)
  | clock now => exact { Stays.refl session with }
  | openWorkflow draft =>
      rw [perform]
      cases built : draft.build with
      | ok workflow =>
          obtain ⟨noTasks, -, gateway, -⟩ := WorkflowDraft.build_ok built
          refine Session.stays_addWorkflow ?_ noTasks
          rw [gateway]
          exact regular
      | error error => exact .refl session
  | hold id | release id | setParameter id name value | synthesizeRoots id =>
      apply Session.stays_updateWorkflow
      · exact fun _ => rfl
      · exact fun _ => rfl
  | enter id => exact { Stays.refl session with }
  | leave => exact { Stays.refl session with }
  | build draft => cases unbuilt
  | addInput task name value | addOutput task name value =>
      apply Session.stays_updateTask
      exact fun _ => rfl
  | addTask id task => cases unmoved
  | precedes task targets =>
      rw [perform, Session.precedes_eq]
      exact Session.stays_linkAll session _
  | follows task targets =>
      rw [perform, Session.follows_eq]
      exact Session.stays_linkAll session _
  | arrow direction left right =>
      rw [perform, Session.arrow_eq]
      exact Session.stays_linkAll session _
  | definitionList id =>
      exact Session.stays_of_run
        (Session.stays_of_looks (Session.definitionList_looked id)) session
  | relationList id =>
      exact Session.stays_of_run
        (Session.stays_of_looks (Session.relationList_looked id)) session
  | definition id =>
      exact Session.stays_of_run
        (Session.stays_of_looks (Session.definition_looked id)) session
  | summary id =>
      exact Session.stays_of_run
        (Session.stays_of_looks (Session.summary_looked id)) session
  | submit id => exact Session.stays_of_run (Session.submit_stays id) session
  | start id => exact Session.stays_of_run (Session.start_stays id) session
  | submitAndStart id =>
      exact Session.stays_of_run (Session.submitAndStart_stays id) session

theorem keeps_perform {operation : Operation}
    (unbuilt : operation.isBuild = false) :
    Keeps session (operation.perform session) := by
  cases operation with
  | openGateway server | serve id server => exact .of_same rfl
  | openWorkflow draft =>
      rw [perform]
      split
      · exact .of_same rfl
      · exact .of_same rfl
  | addTask id task => exact Session.keeps_addTask session id task
  | build draft => cases unbuilt
  | _ =>
      apply Stays.toKeeps
      exact stays_perform trivial rfl rfl

theorem hosts_perform {operation : Operation}
    (regular : operation.Regular session) :
    Hosts session (operation.perform session) := by
  cases operation with
  | build draft =>
      rw [perform]
      rcases built : draft.build.run session with ⟨error | task, after⟩
      · exact (TaskDraft.stays_of_failed built).toHosts
      · obtain ⟨_, _, _, -, -, -, -, hosts, -⟩ := TaskDraft.build_ok built
        exact (draft.asked_stays session _).toHosts.trans hosts
  | addTask id task => exact Session.hosts_addTask session id task
  | _ => exact (stays_perform regular rfl rfl).toHosts

end Operation

end Orchestration
