import Orchestration.Proofs.Session.Keeping
import Orchestration.Proofs.Session.Ownership

namespace Orchestration

open Gateway (Server)

/-! Tasks by their names. A gateway gives the tasks of one workflow codes that
differ as their names do. -/

namespace Run

/-- Every operation of the run fits the session that it was made in. -/
def All (fits : Session → Operation → Prop) : Run session → Prop
  | start _ => True
  | @step before run operation _ => run.All fits ∧ fits before operation

def Built (id : WorkflowId) (name : String) (task : TaskId) :
    Run session → Prop
  | start _ => False
  | @step before run operation _ =>
      (∃ draft : TaskDraft, operation = .build draft ∧ draft.name = name ∧
        draft.workflowIn before = .ok id ∧
        (draft.build.run before).1 = .ok task) ∨
      run.Built id name task

end Run

namespace Session

variable {session before after : Session} {id : WorkflowId}
  {name other : String} {code : Int}

def heldCode? (session : Session) (id : WorkflowId) (name : String) :
    Option Int :=
  let workflow := session.workflow id
  (session.gateway workflow.gateway).code?
    (.task ⟨workflow.project, workflow.name, name⟩)

/-- Workflows have gateways that are there, and all gateways keep codes of tasks
apart. -/
structure Hosted (session : Session) : Prop where
  gateway : ∀ id, session.hasWorkflow id →
    session.hasGateway (session.workflow id).gateway
  faithful : ∀ id, (session.gateway id).Faithful

theorem Hosted.heldCode?_inj (hosted : session.Hosted)
    (held : session.heldCode? id name = some code)
    (otherHeld : session.heldCode? id other = some code) : name = other := by
  have same := (hosted.faithful _).distinct _ _ code held otherHeld
  exact congrArg Gateway.TaskKey.task same

namespace Hosts

theorem hosted (hosts : Hosts before after) (hosted : before.Hosted) :
    after.Hosted where
  gateway id present := by
    rcases hosts.opened id present with old | new
    · rw [hosts.field Workflow.gateway (fun _ => rfl) old]
      exact hosts.hasGateway _ (hosted.gateway id old)
    · exact new
  faithful id := (hosts.gateway id).faithful (hosted.faithful id)

theorem heldCode? (hosts : Hosts before after) (present : before.hasWorkflow id)
    (held : before.heldCode? id name = some code) :
    after.heldCode? id name = some code := by
  rw [Session.heldCode?, hosts.field Workflow.gateway (fun _ => rfl) present,
    hosts.field Workflow.project (fun _ => rfl) present,
    hosts.field Workflow.name (fun _ => rfl) present]
  exact (hosts.gateway _).held _ code held

end Hosts

end Session

theorem Run.hosted (run : Run session)
    (regular : run.All fun before operation => operation.Regular before) :
    session.Hosted := by
  induction run with
  | start now =>
      refine ⟨fun id present => ?_, fun id => Server.faithful_new⟩
      cases present
  | step run operation possible induction =>
      obtain ⟨earlier, now⟩ := regular
      exact (Operation.hosts_perform now).hosted (induction earlier)

namespace TaskDraft

variable {draft : TaskDraft} {session after : Session} {id : WorkflowId}
  {kind : TaskKind} {identity : TaskIdentity}

theorem heldCode?_asked
    (hosted : session.hasGateway (session.workflow id).gateway)
    (replied : (draft.reply session id).1 = .ok identity) :
    (draft.asked session id).heldCode? id draft.name = some identity.code := by
  have held := Server.lookup_of_identified replied rfl
  have workflow : (draft.asked session id).workflow id = session.workflow id :=
    rfl
  rw [Session.heldCode?, workflow, asked, Session.gateway_withServer hosted,
    Server.code?, reply, held]
  rfl

/-- Once the gateway told the identity, the build depends on the code alone. -/
theorem build_identified (present : session.hasWorkflow id)
    (hosted : session.hasGateway (session.workflow id).gateway)
    (found : draft.workflowIn session = .ok id)
    (resolved : (draft.resolvedKind (session.workflow id)).run = .ok kind)
    (replied : (draft.reply session id).1 = .ok identity) :
    (draft.build.run session).2.heldCode? id draft.name =
        some identity.code ∧
      if (session.workflow id).tasks.contains identity.code then
        (draft.build.run session).1 =
          .error (.duplicateTask draft.name identity.code
            (session.workflow id).name)
      else
        ∃ task, (draft.build.run session).1 = .ok task ∧
          session.Adds (draft.build.run session).2 id task
            (draft.task kind (session.workflow id).gateway identity) := by
  have held := heldCode?_asked hosted replied
  rcases built : draft.build.run session with ⟨error | task, after⟩
  · cases build_failed_iff.mp built with
    | homeless other => cases found.symm.trans other
    | invalid other invalid =>
        cases found.symm.trans other
        cases resolved.symm.trans (resolvedKind_error_iff.mpr (.inl invalid))
    | unread other valid unread =>
        cases found.symm.trans other
        cases resolved.symm.trans
          (resolvedKind_error_iff.mpr (.inr ⟨valid, unread⟩))
    | unidentified other _ failed =>
        cases found.symm.trans other
        cases replied.symm.trans failed
    | taken other _ same taken =>
        cases found.symm.trans other
        cases replied.symm.trans same
        rw [if_pos taken]
        exact ⟨held, rfl⟩
  · obtain ⟨_, _, _, other, sameKind, same, free, hosts, adds⟩ := build_ok built
    cases found.symm.trans other
    cases resolved.symm.trans sameKind
    cases replied.symm.trans same
    rw [if_neg (by simp [free])]
    exact ⟨hosts.heldCode? present held, task, rfl, adds present⟩

end TaskDraft

namespace Session

variable {session before after : Session} {id : WorkflowId} {name : String}
  {task : TaskId}

/-- The workflow has the task under the code that its gateway holds for the
name. -/
structure Knows (session : Session) (id : WorkflowId) (name : String)
    (task : TaskId) : Prop where
  hasWorkflow : session.hasWorkflow id
  hasTask : session.hasTask task
  title : (session.task task).name = name
  registered : session.Registered id task
  held : session.heldCode? id name = some (session.task task).code

namespace Knows

theorem stays (knows : before.Knows id name task)
    (stays : Stays before after) : after.Knows id name task := by
  have code := stays.toKeeps.field Task.code (fun _ => rfl) task
  refine ⟨stays.hasWorkflow id knows.hasWorkflow, ?_, ?_, ?_, ?_⟩
  · rw [stays.hasTask, knows.hasTask]
  · rw [stays.toKeeps.field Task.name fun _ => rfl, knows.title]
  · rw [Registered, stays.tasks, code]
    exact knows.registered
  · rw [code]
    exact stays.toHosts.heldCode? knows.hasWorkflow knows.held

theorem adds {place : WorkflowId} {new : TaskId} {made : Task}
    (knows : before.Knows id name task) (hosts : Hosts before after)
    (adds : Adds before after place new made)
    (free : (before.workflow place).tasks.contains made.code = false) :
    after.Knows id name task := by
  have code := adds.old_field Task.code (fun _ => rfl) knows.hasTask
  refine ⟨hosts.hasWorkflow id knows.hasWorkflow, ?_, ?_, ?_, ?_⟩
  · exact (adds.hasTask task).mpr (.inl knows.hasTask)
  · rw [← knows.title]
    exact adds.old_field Task.name (fun _ => rfl) knows.hasTask
  · rw [Registered, adds.tasks, code]
    split
    next same =>
      subst same
      have different : (before.task task).code ≠ made.code := by
        intro equal
        rw [← equal, SortedMap.contains, knows.registered] at free
        cases free
      rw [SortedMap.find?_insert_other _ different]
      exact knows.registered
    next => exact knows.registered
  · rw [code]
    exact hosts.heldCode? knows.hasWorkflow knows.held

theorem new {made : Task} (present : before.hasWorkflow id)
    (hosts : Hosts before after) (adds : Adds before after id task made)
    (held : after.heldCode? id made.name = some made.code) :
    after.Knows id made.name task := by
  have code := adds.new_field Task.code fun _ => rfl
  refine ⟨hosts.hasWorkflow id present, ?_, ?_, ?_, ?_⟩
  · exact (adds.hasTask task).mpr (.inr rfl)
  · exact adds.new_field Task.name fun _ => rfl
  · rw [Registered, adds.tasks, if_pos rfl, code]
    exact SortedMap.find?_insert_self _ _ _
  · rw [code, held]

end Knows

end Session

/-- Workflows have the tasks that were built in them, and no others. -/
structure Run.Named (run : Run session) : Prop where
  built : ∀ id name task, run.Built id name task → session.Knows id name task
  listed : ∀ id code task, (session.workflow id).tasks.find? code = some task →
    (session.task task).code = code ∧ ∃ name, run.Built id name task

namespace Run.Named

variable {session : Session} {run : Run session}

theorem stays (named : run.Named) {operation : Operation}
    (possible : operation.isPossible session = true)
    (stays : session.Stays (operation.perform session))
    (unbuilt : ∀ id name task,
      (run.step operation possible).Built id name task →
        run.Built id name task) :
    (run.step operation possible).Named where
  built id name task built :=
    (named.built id name task (unbuilt id name task built)).stays stays
  listed id code task found := by
    rw [stays.tasks] at found
    obtain ⟨same, name, built⟩ := named.listed id code task found
    rw [stays.toKeeps.field Task.code fun _ => rfl]
    exact ⟨same, name, .inr built⟩

theorem build (named : run.Named) (consistent : session.Consistent)
    (hosted : session.Hosted) {draft : TaskDraft}
    (possible : (Operation.build draft).isPossible session = true) :
    (run.step (.build draft) possible).Named := by
  rcases result : draft.build.run session with ⟨error | task, after⟩
  · apply named.stays
    · rw [Operation.perform, result]
      exact TaskDraft.stays_of_failed result
    · intro id name task built
      rcases built with ⟨other, same, -, -, succeeded⟩ | before
      · cases same
        rw [result] at succeeded
        cases succeeded
      · exact before
  · obtain ⟨id, kind, identity, found, resolved, replied, free, hosts, adds⟩ :=
      TaskDraft.build_ok result
    have present := consistent.hasWorkflow_of_workflowIn possible found
    have adds := adds present
    have allHosts := (draft.asked_stays session id).toHosts.trans hosts
    have held := hosts.heldCode? present
      (TaskDraft.heldCode?_asked (hosted.gateway id present) replied)
    have performed : (Operation.build draft).perform session = after := by
      rw [Operation.perform, result]
    have isNew := Session.Knows.new present allHosts adds held
    rw [← performed] at allHosts adds isNew
    have old : ∀ other name earlier, run.Built other name earlier →
        ((Operation.build draft).perform session).Knows other name earlier :=
      fun other name earlier built =>
        (named.built other name earlier built).adds allHosts adds free
    constructor
    · intro other name newTask built
      rcases built with ⟨_, same, rfl, foundThen, succeeded⟩ | before
      · cases same
        rw [result] at succeeded
        cases succeeded
        cases found.symm.trans foundThen
        exact isNew
      · exact old other name newTask before
    · intro other code listedTask listed
      rcases adds.listed_cases listed with ⟨rfl, rfl, rfl⟩ | before
      · refine ⟨adds.new_field Task.code fun _ => rfl, draft.name,
          .inl ⟨draft, rfl, rfl, found, ?_⟩⟩
        rw [result]
      · obtain ⟨code, name, built⟩ := named.listed other code _ before
        have known := named.built other name _ built
        rw [adds.old_field Task.code (fun _ => rfl) known.hasTask]
        exact ⟨code, name, .inr built⟩

end Run.Named

theorem Run.named (run : Run session)
    (regular : run.All fun before operation => operation.Regular before)
    (unmoved : run.All fun _ operation => operation.isAddTask = false) :
    run.Named := by
  induction run with
  | start now =>
      refine ⟨fun id name task built => built.elim, ?_⟩
      intro id code task listed
      cases listed
  | @step before run operation possible induction =>
      obtain ⟨regularBefore, fits⟩ := regular
      obtain ⟨unmovedBefore, stays⟩ := unmoved
      have named := induction regularBefore unmovedBefore
      cases isBuild : operation.isBuild with
      | true =>
          obtain ⟨draft, rfl⟩ := Operation.isBuild_iff.mp isBuild
          exact named.build run.consistent (run.hosted regularBefore) possible
      | false =>
          apply named.stays possible
            (Operation.stays_perform fits isBuild stays)
          intro id name task built
          rcases built with ⟨draft, rfl, -⟩ | built
          · cases isBuild
          · exact built

namespace Session

variable {session : Session} {id : WorkflowId} {name : String} {task : TaskId}

theorem mem_taskIds_iff :
    task ∈ session.taskIds id ↔
      ∃ code, (session.workflow id).tasks.find? code = some task := by
  simp [taskIds, SortedMap.values, SortedMap.find?_eq_some_iff]

theorem mem_tasksByName_iff :
    task ∈ session.tasksByName id name ↔
      task ∈ session.taskIds id ∧ (session.task task).name = name := by
  simp [tasksByName]

theorem oneTaskByName_eq_ok_iff
    (unique : ∀ other ∈ session.tasksByName id name,
      ∀ another ∈ session.tasksByName id name, other = another) :
    session.oneTaskByName id name = .ok task ↔
      task ∈ session.tasksByName id name := by
  rw [oneTaskByName]
  cases found : session.tasksByName id name with
  | nil => simp
  | cons first rest =>
      rw [found] at unique
      constructor
      · intro same
        cases same
        exact List.mem_cons_self
      · intro member
        rw [unique first List.mem_cons_self task member]

theorem oneTaskByName_eq_error_iff :
    session.oneTaskByName id name = .error (.taskNameNotFound name) ↔
      ∀ task, task ∉ session.tasksByName id name := by
  rw [oneTaskByName]
  cases session.tasksByName id name with
  | nil => simp
  | cons first rest =>
      simp only [reduceCtorEq, false_iff, not_forall, not_not]
      exact ⟨first, List.mem_cons_self⟩

end Session

namespace Run.Named

variable {session : Session} {run : Run session} {id : WorkflowId}
  {name : String} {task other : TaskId}

theorem mem_tasksByName_iff (named : run.Named) :
    task ∈ session.tasksByName id name ↔ run.Built id name task := by
  rw [Session.mem_tasksByName_iff, Session.mem_taskIds_iff]
  constructor
  · rintro ⟨⟨code, listed⟩, rfl⟩
    obtain ⟨-, name, built⟩ := named.listed id code task listed
    rwa [(named.built id name task built).title]
  · intro built
    have known := named.built id name task built
    exact ⟨⟨_, known.registered⟩, known.title⟩

theorem name_eq_iff (named : run.Named) (hosted : session.Hosted)
    (listed : task ∈ session.taskIds id)
    (otherListed : other ∈ session.taskIds id) :
    ((session.task task).name = (session.task other).name ↔
        (session.task task).code = (session.task other).code) ∧
      ((session.task task).name = (session.task other).name →
        task = other) := by
  have knows : ∀ task ∈ session.taskIds id,
      session.Knows id (session.task task).name task := by
    intro task listed
    apply named.built
    exact named.mem_tasksByName_iff.mp
      (Session.mem_tasksByName_iff.mpr ⟨listed, rfl⟩)
  have known := knows task listed
  have otherKnown := knows other otherListed
  have codes : (session.task task).name = (session.task other).name →
      (session.task task).code = (session.task other).code := by
    intro same
    have held := known.held
    rw [same, otherKnown.held] at held
    exact (Option.some.inj held).symm
  refine ⟨⟨codes, fun same => ?_⟩, fun same => ?_⟩
  · have held := known.held
    rw [same] at held
    exact hosted.heldCode?_inj held otherKnown.held
  · have registered := known.registered
    rw [Session.Registered, codes same, otherKnown.registered] at registered
    exact (Option.some.inj registered).symm

theorem unique (named : run.Named) (hosted : session.Hosted) :
    ∀ task ∈ session.tasksByName id name,
      ∀ other ∈ session.tasksByName id name, task = other := by
  intro task member other otherMember
  obtain ⟨listed, title⟩ := Session.mem_tasksByName_iff.mp member
  obtain ⟨otherListed, rfl⟩ := Session.mem_tasksByName_iff.mp otherMember
  exact (named.name_eq_iff hosted listed otherListed).2 title

end Run.Named

/-- Codes decide about builds. Unless tasks were moved, the tasks of a workflow
have codes as they have names, and are found by the names they were built
under. -/
theorem naming (run : Run session)
    (regular : run.All fun before operation => operation.Regular before) :
    (∀ (draft : TaskDraft) id kind identity,
      (Operation.build draft).isPossible session = true →
      draft.workflowIn session = .ok id →
      (draft.resolvedKind (session.workflow id)).run = .ok kind →
      (draft.reply session id).1 = .ok identity →
      (draft.build.run session).2.heldCode? id draft.name =
          some identity.code ∧
        if (session.workflow id).tasks.contains identity.code then
          (draft.build.run session).1 =
            .error (.duplicateTask draft.name identity.code
              (session.workflow id).name)
        else
          ∃ task, (draft.build.run session).1 = .ok task ∧
            session.Adds (draft.build.run session).2 id task
              (draft.task kind (session.workflow id).gateway identity)) ∧
    ((run.All fun _ operation => operation.isAddTask = false) → ∀ id,
      (∀ task ∈ session.taskIds id, ∀ other ∈ session.taskIds id,
        ((session.task task).name = (session.task other).name ↔
            (session.task task).code = (session.task other).code) ∧
          ((session.task task).name = (session.task other).name →
            task = other)) ∧
      ∀ name,
        (∀ task, session.oneTaskByName id name = .ok task ↔
          run.Built id name task) ∧
        (session.oneTaskByName id name = .error (.taskNameNotFound name) ↔
          ∀ task, ¬ run.Built id name task)) := by
  have hosted := run.hosted regular
  constructor
  · intro draft id kind identity possible found resolved replied
    have present := run.consistent.hasWorkflow_of_workflowIn possible found
    exact TaskDraft.build_identified present (hosted.gateway id present) found
      resolved replied
  · intro unmoved id
    have named := run.named regular unmoved
    refine ⟨fun task listed other => named.name_eq_iff hosted listed,
      fun name => ⟨fun task => ?_, ?_⟩⟩
    · rw [Session.oneTaskByName_eq_ok_iff (named.unique hosted)]
      exact named.mem_tasksByName_iff
    · rw [Session.oneTaskByName_eq_error_iff]
      exact forall_congr' fun task => not_congr named.mem_tasksByName_iff

/-- Two workflows of one name, and a task of the same name in both of them. -/
def twins : List Operation :=
  [.openGateway {}, .openWorkflow { name := "w", gateway := ⟨0⟩ },
    .openWorkflow { name := "w", gateway := ⟨0⟩ },
    .build { name := "a", kind := .shell "", workflow := some ⟨0⟩ },
    .build { name := "a", kind := .shell "", workflow := some ⟨1⟩ },
    .build { name := "a", kind := .python "", workflow := some ⟨0⟩ }]

def twinned : Session := Operation.performAll { now := "" } twins

def Run.toTwinned : Run twinned :=
  (Run.start "").extend twins (by decide +kernel)

/-- The workflow has a task of the name, so that one more is refused. -/
theorem naming_twinned :
    (Run.toTwinned.All fun before operation => operation.Regular before) ∧
      (Run.toTwinned.All fun _ operation => operation.isAddTask = false) ∧
      Run.toTwinned.Built ⟨0⟩ "a" ⟨0⟩ ∧ Run.toTwinned.Built ⟨1⟩ "a" ⟨1⟩ ∧
      twinned.oneTaskByName ⟨0⟩ "a" = .ok ⟨0⟩ ∧
      twinned.oneTaskByName ⟨1⟩ "a" = .ok ⟨1⟩ ∧
      (({ name := "a", kind := .shell "", workflow := some ⟨1⟩ } :
        TaskDraft).build.run twinned).1 =
          .error (.duplicateTask "a" 1000 "w") := by
  have regular :
      Run.toTwinned.All fun before operation => operation.Regular before := by
    refine ⟨⟨⟨⟨⟨⟨trivial, ⟨.start⟩⟩, ?_⟩, ?_⟩, trivial⟩, trivial⟩, trivial⟩
    · change Session.hasGateway _ _ = true
      decide +kernel
    · change Session.hasGateway _ _ = true
      decide +kernel
  have unmoved :
      Run.toTwinned.All fun _ operation => operation.isAddTask = false :=
    ⟨⟨⟨⟨⟨⟨trivial, rfl⟩, rfl⟩, rfl⟩, rfl⟩, rfl⟩, rfl⟩
  have first : Run.toTwinned.Built ⟨0⟩ "a" ⟨0⟩ :=
    .inr (.inr (.inl ⟨_, rfl, rfl, rfl, by decide +kernel⟩))
  have second : Run.toTwinned.Built ⟨1⟩ "a" ⟨1⟩ :=
    .inr (.inl ⟨_, rfl, rfl, rfl, by decide +kernel⟩)
  obtain ⟨builds, names⟩ := naming Run.toTwinned regular
  refine ⟨regular, unmoved, first, second,
    (((names unmoved ⟨0⟩).2 "a").1 ⟨0⟩).mpr first,
    (((names unmoved ⟨1⟩).2 "a").1 ⟨1⟩).mpr second, ?_⟩
  have settled := builds
    { name := "a", kind := .shell "", workflow := some ⟨1⟩ } ⟨1⟩ (.shell "")
    ⟨1000, 0⟩ (by decide +kernel) rfl rfl (by decide +kernel)
  have taken :
      (twinned.workflow ⟨1⟩).tasks.contains (1000 : Int) = true := by
    decide +kernel
  have name : (twinned.workflow ⟨1⟩).name = "w" := by decide +kernel
  rw [if_pos taken, name] at settled
  exact settled.2

end Orchestration
