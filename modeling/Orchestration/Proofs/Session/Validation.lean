import Orchestration.Proofs.Parameter.Inference
import Orchestration.Proofs.Session.Outcome
import Orchestration.Proofs.Session.Publishing

namespace Orchestration

/-! Whether a switch has a variable. The test for it looks at what was given,
and lists of parameters are empty exactly if nothing was given for them. -/

namespace ParameterMap

theorem insertIn_ne_nil (name : String) (value : HostValue)
    (entries : List (String × HostValue)) :
    insertIn name value entries ≠ [] := by
  cases entries with
  | nil => exact List.cons_ne_nil _ _
  | cons entry rest =>
      rw [insertIn]
      split <;> exact List.cons_ne_nil _ _

end ParameterMap

namespace Task

variable {task : Task}

theorem localParameters_eq_nil_iff :
    task.localParameters = .ok [] ↔
      task.rawParameters = [] ∧ task.inputs.entries = [] ∧
        task.outputs.entries = [] := by
  constructor
  · intro none
    obtain ⟨inputs, first, none⟩ := Except.bind_ok none
    obtain ⟨outputs, second, none⟩ := Except.bind_ok none
    have none : task.rawParameters ++ inputs ++ outputs = [] :=
      Except.ok.inj none
    rw [List.append_eq_nil_iff, List.append_eq_nil_iff] at none
    obtain ⟨⟨raw, rfl⟩, rfl⟩ := none
    exact ⟨raw, Parameter.inferAll_eq_nil_iff.mp first,
      Parameter.inferAll_eq_nil_iff.mp second⟩
  · rintro ⟨raw, inputs, outputs⟩
    rw [localParameters, ParameterMap.toParameters, ParameterMap.toParameters,
      raw, inputs, outputs]
    rfl

theorem hasLocalParameters_eq_false_iff :
    task.hasLocalParameters = false ↔ task.localParameters = .ok [] := by
  rw [localParameters_eq_nil_iff, hasLocalParameters, ParameterMap.isEmpty,
    ParameterMap.isEmpty]
  simp [and_assoc]

theorem hasLocalParameters_iff :
    task.hasLocalParameters = true ↔
      (∃ error, task.localParameters = .error error) ∨
        ∃ parameters, task.localParameters = .ok parameters ∧
          parameters ≠ [] := by
  rw [← Bool.not_eq_false, hasLocalParameters_eq_false_iff]
  cases task.localParameters with
  | error error => simp
  | ok parameters => simp

end Task

theorem Workflow.globalParameters_eq_nil_iff {workflow : Workflow} :
    workflow.globalParameters = [] ↔ workflow.parameters.entries = [] :=
  List.map_eq_nil_iff

namespace Session

variable {session before middle after : Session} {id : WorkflowId}

/-- There is a switch among the tasks of the workflow, and no parameter. -/
structure Starved (session : Session) (id : WorkflowId) : Prop where
  switch : ∃ task ∈ session.taskIds id,
    (session.task task).kind.type = TaskKind.switchType
  shared : (session.workflow id).globalParameters = []
  own : ∀ task ∈ session.taskIds id,
    (session.task task).localParameters = .ok []

theorem validate_cases (session : Session) (id : WorkflowId) :
    session.validate id = .ok () ∧ ¬ session.Starved id ∨
      session.validate id = .error (.parameter .noSwitchVariable) ∧
        session.Starved id := by
  have refused : ((session.tasksIn id).any Task.isSwitch &&
      (session.workflow id).parameters.isEmpty &&
      (session.tasksIn id).all fun task => !task.hasLocalParameters) = true ↔
        session.Starved id := by
    simp only [tasksIn, Bool.and_eq_true, List.any_map, List.all_map,
      List.any_eq_true, List.all_eq_true, Function.comp_apply, Task.isSwitch,
      beq_iff_eq, Bool.not_eq_true', Task.hasLocalParameters_eq_false_iff,
      ParameterMap.isEmpty, List.isEmpty_iff,
      ← Workflow.globalParameters_eq_nil_iff]
    constructor
    · rintro ⟨⟨switch, shared⟩, own⟩
      exact ⟨switch, shared, own⟩
    · rintro ⟨switch, shared, own⟩
      exact ⟨⟨switch, shared⟩, own⟩
  rw [validate]
  split
  next starved => exact .inr ⟨rfl, refused.mp starved⟩
  next fed => exact .inl ⟨rfl, fun starved => fed (refused.mpr starved)⟩

theorem validate_ok_iff :
    session.validate id = .ok () ↔ ¬ session.Starved id := by
  rcases session.validate_cases id with ⟨valid, fed⟩ | ⟨invalid, starved⟩
  · simp [valid, fed]
  · simp [invalid, starved]

theorem validate_error_iff :
    (∃ error, session.validate id = .error error) ↔ session.Starved id := by
  rcases session.validate_cases id with ⟨valid, fed⟩ | ⟨invalid, starved⟩
  · simp [valid, fed]
  · simp [invalid, starved]

/-- Parameters may have come, and nothing else that a switch is checked by is
another. -/
structure Enriches (before after : Session) : Prop where
  tasks : ∀ id, (after.workflow id).tasks = (before.workflow id).tasks
  kind : ∀ task, (after.task task).kind = (before.task task).kind
  shared : ∀ id, (after.workflow id).globalParameters = [] →
    (before.workflow id).globalParameters = []
  own : ∀ task, (after.task task).localParameters = .ok [] →
    (before.task task).localParameters = .ok []

namespace Enriches

theorem refl (session : Session) : Enriches session session :=
  ⟨fun _ => rfl, fun _ => rfl, fun _ none => none, fun _ none => none⟩

theorem trans (first : Enriches before middle)
    (second : Enriches middle after) : Enriches before after where
  tasks id := (second.tasks id).trans (first.tasks id)
  kind task := (second.kind task).trans (first.kind task)
  shared id none := first.shared id (second.shared id none)
  own task none := first.own task (second.own task none)

theorem starved (enriches : Enriches before after)
    (starved : after.Starved id) : before.Starved id := by
  obtain ⟨⟨task, member, type⟩, shared, own⟩ := starved
  have ids : after.taskIds id = before.taskIds id := by
    rw [taskIds, taskIds, enriches.tasks]
  rw [ids] at member own
  rw [enriches.kind] at type
  exact ⟨⟨task, member, type⟩, enriches.shared id shared,
    fun task member => enriches.own task (own task member)⟩

theorem validate (enriches : Enriches before after)
    (valid : before.validate id = .ok ()) : after.validate id = .ok () :=
  validate_ok_iff.mpr fun starved =>
    validate_ok_iff.mp valid (enriches.starved starved)

theorem updateTask (session : Session) (id : TaskId) {update : Task → Task}
    (kind : ∀ task, (update task).kind = task.kind)
    (own : ∀ task, (update task).localParameters ≠ .ok []) :
    Enriches session (session.updateTask id update) where
  tasks _ := rfl
  kind := task_updateTask_kept Task.kind kind id
  shared _ none := none
  own task none := by
    rcases task_updateTask_cases session id update task with same | ⟨-, same⟩
    · rwa [same] at none
    · rw [same] at none
      exact absurd none (own _)

end Enriches

end Session

namespace Workflow

theorem globalParameters_setParameter (workflow : Workflow) (name : String)
    (value : HostValue) :
    (workflow.setParameter name value).globalParameters ≠ [] :=
  fun none => ParameterMap.insertIn_ne_nil name value _
    (globalParameters_eq_nil_iff.mp none)

end Workflow

namespace Task

theorem localParameters_addInput (task : Task) (name : String)
    (value : HostValue) :
    { task with inputs := task.inputs.insert name value }.localParameters ≠
      .ok [] :=
  fun none => ParameterMap.insertIn_ne_nil name value _
    (localParameters_eq_nil_iff.mp none).2.1

theorem localParameters_addOutput (task : Task) (name : String)
    (value : HostValue) :
    { task with outputs := task.outputs.insert name value }.localParameters ≠
      .ok [] :=
  fun none => ParameterMap.insertIn_ne_nil name value _
    (localParameters_eq_nil_iff.mp none).2.2

end Task

namespace Operation

variable {session : Session} {id : WorkflowId} {operation : Operation}

def isAddition : Operation → Bool
  | setParameter _ _ _ | addInput _ _ _ | addOutput _ _ _ => true
  | _ => false

def AddsTo (session : Session) (id : WorkflowId) : Operation → Prop
  | setParameter target _ _ => target = id
  | addInput task _ _ | addOutput task _ _ => session.Registered id task
  | _ => False

theorem enriches_perform (session : Session)
    (addition : operation.isAddition = true) :
    session.Enriches (operation.perform session) := by
  cases operation with
  | setParameter target name value =>
      refine ⟨fun id => ?_, fun _ => rfl, fun id none => ?_,
        fun _ none => none⟩
      · apply Session.workflow_updateWorkflow_kept Workflow.tasks
        exact fun _ => rfl
      · rcases Session.workflow_updateWorkflow_cases session target
          (·.setParameter name value) id with same | ⟨-, same⟩
        · rwa [perform, same] at none
        · rw [perform, same] at none
          exact absurd none (Workflow.globalParameters_setParameter _ _ _)
  | addInput task name value =>
      exact .updateTask session task (fun _ => rfl) fun task =>
        task.localParameters_addInput name value
  | addOutput task name value =>
      exact .updateTask session task (fun _ => rfl) fun task =>
        task.localParameters_addOutput name value
  | _ => cases addition

theorem enriches_performAll (session : Session) {additions : List Operation}
    (all : ∀ operation ∈ additions, operation.isAddition = true) :
    session.Enriches (performAll session additions) := by
  induction additions generalizing session with
  | nil => exact .refl session
  | cons operation rest induction =>
      obtain ⟨first, others⟩ := List.forall_mem_cons.mp all
      exact (enriches_perform session first).trans (induction _ others)

theorem validate_of_addsTo (consistent : session.Consistent)
    (alive : session.isAlive id) (adds : operation.AddsTo session id) :
    (operation.perform session).validate id = .ok () := by
  rw [Session.validate_ok_iff]
  intro starved
  cases operation with
  | setParameter target name value =>
      cases adds
      have shared := starved.shared
      rw [perform, Session.workflow_updateWorkflow_self
        (consistent.present id alive)] at shared
      exact Workflow.globalParameters_setParameter _ _ _ shared
  | addInput task name value =>
      have own := starved.own task
        ((consistent.mem_taskIds_iff alive).mpr adds)
      rw [perform, Session.task_updateTask_self
        (consistent.hasTask_of_listed alive adds)] at own
      exact Task.localParameters_addInput _ _ _ own
  | addOutput task name value =>
      have own := starved.own task
        ((consistent.mem_taskIds_iff alive).mpr adds)
      rw [perform, Session.task_updateTask_self
        (consistent.hasTask_of_listed alive adds)] at own
      exact Task.localParameters_addOutput _ _ _ own
  | _ => cases adds

end Operation

namespace Session

variable {session : Session} {id : WorkflowId}

def HasVariable (session : Session) (id : WorkflowId) : Prop :=
  (session.workflow id).globalParameters ≠ [] ∨
    ∃ task, session.Registered id task ∧
      ∃ parameters, (session.task task).localParameters = .ok parameters ∧
        parameters ≠ []

/-- The workflow is refused if it has a switch and all its lists of parameters
are empty. Adding any parameter is enough, and adding more does no harm. -/
structure Validates (session : Session) (id : WorkflowId) : Prop where
  refused : (∃ error, session.validate id = .error error) ↔
    (∃ task, session.Registered id task ∧
      (session.task task).kind.type = TaskKind.switchType) ∧
    (session.workflow id).globalParameters = [] ∧
    ∀ task, session.Registered id task →
      (session.task task).localParameters = .ok []
  keeps : ∀ additions : List Operation,
    (∀ operation ∈ additions, operation.isAddition = true) →
    session.validate id = .ok () →
    (Operation.performAll session additions).validate id = .ok ()
  enough : ∀ operation : Operation, operation.AddsTo session id →
    (operation.perform session).validate id = .ok ()

theorem Consistent.validates (consistent : session.Consistent)
    (alive : session.isAlive id) : session.Validates id where
  refused := by
    rw [validate_error_iff]
    simp only [← consistent.mem_taskIds_iff alive]
    exact ⟨fun ⟨switch, shared, own⟩ => ⟨switch, shared, own⟩,
      fun ⟨switch, shared, own⟩ => ⟨switch, shared, own⟩⟩
  keeps _ additions :=
    (Operation.enriches_performAll session additions).validate
  enough _ := Operation.validate_of_addsTo consistent alive

theorem Submits.hasVariable {record : WorkflowDefinition}
    {documents : List Json} (submits : session.Submits id record documents)
    (consistent : session.Consistent) (alive : session.isAlive id)
    {document : Json} (member : document ∈ documents)
    (switch : document.field? "taskType" =
      some (.string TaskKind.switchType)) : session.HasVariable id := by
  obtain ⟨reached, ran, same, ⟨-, rfl⟩ | ⟨records, rfl, all⟩⟩ :=
    submits.recorded
  · cases List.mem_singleton.mp member
    cases switch
  · obtain ⟨recorded, among, rfl⟩ := List.mem_map.mp member
    obtain ⟨task, listed, written⟩ := exists_of_forall₂ all.flip among
    rw [TaskDefinition.field?_taskType, written.taskType, same.task] at switch
    have type : (session.task task).kind.type = TaskKind.switchType :=
      Json.string.inj (Option.some.inj switch)
    by_contra none
    rw [HasVariable, not_or, not_not] at none
    obtain ⟨shared, own⟩ := none
    refine validate_ok_iff.mp (validate_of_prepared ran)
      ⟨⟨task, listed, type⟩, shared, fun other member => ?_⟩
    obtain ⟨_, -, written⟩ := exists_of_forall₂ all member
    obtain ⟨parameters, _, _, known, -⟩ := written.parameters
    rw [same.task] at known
    by_contra something
    refine own ⟨other, consistent.registered_of_mem alive member, parameters,
      known, ?_⟩
    rintro rfl
    exact something known

end Session

namespace Run

/-- The record came to the gateway with the earlier ones from outside. -/
def Brought (gateway : GatewayId) (earlier : List WorkflowDefinition)
    (record : WorkflowDefinition) : Run session → Prop
  | start _ => False
  | @step before run operation _ =>
      (operation.isOutside = true ∧
        ¬ earlier ++ [record] <+: (before.gateway gateway).submissions ∧
        earlier ++ [record] <+:
          ((operation.perform before).gateway gateway).submissions) ∨
      run.Brought gateway earlier record

/-- A workflow was submitted with the record when the earlier ones were there.
If a switch was among its tasks, there was a variable for it. -/
def Published (gateway : GatewayId) (earlier : List WorkflowDefinition)
    (record : WorkflowDefinition) : Run session → Prop
  | start _ => False
  | @step before run operation _ =>
      (∃ id documents, operation.submitted? = some id ∧
        (before.workflow id).gateway = gateway ∧
        (before.gateway gateway).submissions = earlier ∧
        before.Submits id record documents ∧
        ((∃ document ∈ documents, document.field? "taskType" =
            some (.string TaskKind.switchType)) →
          before.HasVariable id)) ∨
      run.Published gateway earlier record

theorem brought_or_published (run : Run session) {gateway : GatewayId}
    {earlier : List WorkflowDefinition} {record : WorkflowDefinition}
    (submitted :
      earlier ++ [record] <+: (session.gateway gateway).submissions) :
    run.Brought gateway earlier record ∨
      run.Published gateway earlier record := by
  induction run with
  | start now =>
      have none : earlier ++ [record] = [] := List.prefix_nil.mp submitted
      simp at none
  | @step before run operation possible induction =>
      by_cases old : earlier ++ [record] <+:
          (before.gateway gateway).submissions
      · exact (induction old).imp .inr .inr
      · cases outside : operation.isOutside with
        | true => exact .inl (.inl ⟨outside, old, submitted⟩)
        | false =>
            rcases operation.submissions_perform before outside gateway with
              same | ⟨id, submits, hosted, other, documents, described,
                appended⟩
            · rw [same] at submitted
              exact absurd submitted old
            · rw [appended] at submitted
              have all : earlier ++ [record] =
                  (before.gateway gateway).submissions ++ [other] := by
                rcases List.prefix_concat_iff.mp submitted with same | within
                · exact same
                · exact absurd within old
              obtain ⟨first, last⟩ := List.append_inj' all rfl
              cases last
              have alive : before.isAlive id := by
                cases operation with
                | submit _ | submitAndStart _ =>
                    cases submits
                    exact possible
                | _ => cases submits
              refine .inr (.inl ⟨id, documents, submits, hosted, first.symm,
                described, ?_⟩)
              rintro ⟨document, member, switch⟩
              exact described.hasVariable run.consistent alive member switch

end Run

def starving : List Operation :=
  [.openGateway {}, .openWorkflow { name := "w", gateway := ⟨0⟩ },
    .build {
      name := "s", kind := .custom TaskKind.switchType .empty
      workflow := some ⟨0⟩ }]

def starved : Session := Operation.performAll { now := "" } starving

def Run.toStarved : Run starved :=
  (Run.start "").extend starving (by decide +kernel)

def feeding : List Operation :=
  [.addInput ⟨0⟩ "x" (.bool true), .submit ⟨0⟩]

def fed : Session := Operation.performAll starved feeding

def Run.toFed : Run fed := Run.toStarved.extend feeding (by decide +kernel)

namespace Session

variable {session : Session}

/-- The test for parameters of a task agrees with their list, and the check of a
workflow with all its lists. What was submitted passed the check, so there was a
variable for its switches. -/
theorem validation (run : Run session) :
    (∀ task, (session.task task).hasLocalParameters = true ↔
      (∃ error, (session.task task).localParameters = .error error) ∨
        ∃ parameters, (session.task task).localParameters = .ok parameters ∧
          parameters ≠ []) ∧
      (∀ id, session.isAlive id → session.Validates id) ∧
      ∀ gateway earlier record,
        earlier ++ [record] <+: (session.gateway gateway).submissions →
        run.Brought gateway earlier record ∨
          run.Published gateway earlier record :=
  ⟨fun _ => Task.hasLocalParameters_iff,
    fun _ alive => run.consistent.validates alive,
    fun _ _ _ submitted => run.brought_or_published submitted⟩

theorem validation_fed :
    starved.isAlive ⟨0⟩ = true ∧
      (∃ error, starved.validate ⟨0⟩ = .error error) ∧
      ((Operation.addInput ⟨0⟩ "x" (.bool true)).perform starved).validate
        ⟨0⟩ = .ok () ∧
      ∃ record, (fed.gateway ⟨0⟩).submissions = [record] ∧
        Run.toFed.Published ⟨0⟩ [] record := by
  have alive : starved.isAlive ⟨0⟩ = true := by decide +kernel
  have validates := (validation Run.toStarved).2.1 ⟨0⟩ alive
  have registered : starved.Registered ⟨0⟩ ⟨0⟩ := by decide +kernel
  have count : (fed.gateway ⟨0⟩).submissions.length = 1 := by decide +kernel
  obtain ⟨record, submitted⟩ := List.length_eq_one_iff.mp count
  have refused : errorOf (starved.validate ⟨0⟩) ≠ none := by decide +kernel
  refine ⟨alive, ?_, validates.enough (.addInput ⟨0⟩ "x" (.bool true))
    registered, record, submitted, ?_⟩
  · cases checked : starved.validate ⟨0⟩ with
    | error error => exact ⟨error, rfl⟩
    | ok _ =>
        rw [checked] at refused
        exact absurd rfl refused
  · refine ((validation Run.toFed).2.2 ⟨0⟩ [] record ?_).resolve_left ?_
    · rw [submitted]
      exact List.prefix_rfl
    · rintro (⟨⟨⟩, -⟩ | ⟨⟨⟩, -⟩ | ⟨⟨⟩, -⟩ | ⟨⟨⟩, -⟩ | ⟨-, -, opened⟩ |
        began)
      · exact absurd (List.prefix_nil.mp opened) (List.cons_ne_nil _ _)
      · exact began

end Session

end Orchestration
