import Orchestration.Proofs.Session.Consulting
import Orchestration.Proofs.Session.Submitted

namespace Orchestration

/-! What comes out of a description, told from what comes out of its parts. All
parts may be told in the session that the description starts from. -/

namespace Task

/-- The value of a standard field, given the ones that have to be worked out. -/
def standardValue (task : Task) (parameters : List Parameter)
    (records : List ResourceRecord) : StandardField → Json
  | .localParams => (Json.array (parameters.map Parameter.toJson)).sorted
  | .resourceList => .array (records.map ResourceRecord.toJson)
  | .dependence => .ofMap task.options.dependence
  | .waitStartTimeout => .ofMap task.options.waitStartTimeout
  | .conditionResult => task.options.conditionResult.toJson.sorted

end Task

namespace TaskKind

theorem localParams_mem (kind : TaskKind) :
    .localParams ∈ kind.standardFields := by
  cases kind <;> exact List.mem_cons_self

theorem resourceList_mem (kind : TaskKind) :
    .resourceList ∈ kind.standardFields := by
  cases kind <;> exact List.mem_cons_of_mem _ List.mem_cons_self

end TaskKind

namespace Session

open Orchestration.Action (Settled)

def anything (_ : GatewayId) (_ : Gateway.Method) : Prop := True

variable {session after : Session} {task : TaskId}

theorem covers_anything (task : TaskId) (id : GatewayId)
    (method : Gateway.Method) (_ : session.Consults task id method) :
    anything id method := trivial

theorem outcome_taskDefinitions (session : Session) (tasks : List TaskId) :
    (taskDefinitions tasks).outcome session =
      tasks.mapM fun task => (taskDefinition task).outcome session := by
  have settled : ∀ tasks, Settled session anything (taskDefinitions tasks) :=
    fun tasks => taskDefinitions_settled fun task _ => covers_anything task
  induction tasks with
  | nil => rfl
  | cons task rest induction =>
      rw [taskDefinitions,
        Settled.outcome_bind (taskDefinition_settled (covers_anything task))
          fun _ => .bind (settled rest) fun _ => .pure _,
        List.mapM_cons, ← induction]
      congr 1
      funext definition
      exact Settled.outcome_bind (settled rest) fun _ => .pure _

theorem outcome_standardFields (session : Session) (task : TaskId)
    (fields : List StandardField) :
    (standardFields task fields).outcome session =
      fields.mapM fun field =>
        (standardField task field).outcome session >>= fun value =>
          .ok (field.name, value) := by
  have settled : ∀ fields,
      Settled session anything (standardFields task fields) :=
    fun fields => standardFields_settled (covers_anything task) fields
  induction fields with
  | nil => rfl
  | cons field rest induction =>
      rw [standardFields,
        Settled.outcome_bind
          (standardField_settled (covers_anything task) field) fun _ =>
            .bind (settled rest) fun _ => .pure _,
        List.mapM_cons, ← induction, bind_assoc]
      congr 1
      funext value
      exact Settled.outcome_bind (settled rest) fun _ => .pure _

theorem outcome_standardField (session : Session) (task : TaskId)
    (field : StandardField) :
    (standardField task field).outcome session =
      match field with
      | .localParams => do
          let parameters ← (session.task task).localParameters
          .ok ((session.task task).standardValue parameters [] field)
      | .resourceList => do
          let records ← (resourceList task).outcome session
          .ok ((session.task task).standardValue [] records field)
      | _ => .ok ((session.task task).standardValue [] [] field) := by
  rw [standardField, Action.outcome_read]
  cases field with
  | localParams =>
      have first : Settled session anything
          (Action.ofExcept (session.task task).localParameters) := .ofExcept _
      exact first.outcome_bind fun _ => .pure _
  | resourceList =>
      exact (resourceList_settled (covers_anything task)).outcome_bind fun _ =>
        .pure _
  | dependence => rfl
  | waitStartTimeout => rfl
  | conditionResult => rfl

theorem outcome_taskParameters (session : Session) (task : TaskId) :
    (taskParameters task).outcome session = (do
      let standard ← (standardFields task
        (session.task task).kind.standardFields).outcome session
      let own ← (kindFields task).outcome session
      .ok (.ofList (standard ++ own))) := by
  rw [taskParameters, Action.outcome_read,
    Settled.outcome_bind (standardFields_settled (covers_anything task) _)
      fun _ => .bind (kindFields_settled (covers_anything task)) fun _ =>
        .pure _]
  congr 1
  funext standard
  exact Settled.outcome_bind (kindFields_settled (covers_anything task))
    fun _ => .pure _

def taskRecord (session : Session) (id : TaskId)
    (parameters : SortedMap String Json) (environment : Option Int) :
    TaskDefinition :=
  let task := session.task id
  { code := task.code
    name := task.name
    version := task.version
    description := task.options.description
    delayTime := task.options.delayMinutes
    taskType := task.kind.type
    taskParams := parameters
    flag := task.options.flag
    taskPriority := task.options.priority
    workerGroup := session.workerGroup id
    environmentCode := environment
    failRetryTimes := task.options.retryTimes
    failRetryInterval := task.options.retryInterval
    timeoutFlag := task.options.timeoutFlag
    timeoutNotifyStrategy := task.options.timeoutStrategy
    timeout := task.options.timeoutMinutes
    isCache := .ofBool task.options.cached
    taskGroupId := task.options.groupId
    taskGroupPriority := task.options.groupPriority
    cpuQuota := task.workerLimit task.options.cpuQuota
    memoryMax := task.workerLimit task.options.memoryMax }

theorem outcome_taskDefinition (session : Session) (task : TaskId) :
    (taskDefinition task).outcome session = (do
      let parameters ← (taskParameters task).outcome session
      let environment ← (environmentCode task).outcome session
      .ok (session.taskRecord task parameters environment)) := by
  rw [taskDefinition,
    Settled.outcome_bind (taskParameters_settled (covers_anything task)) ?rest]
  case rest =>
    refine fun _ => .bind (environmentCode_settled (covers_anything task))
      fun _ => .read (fun same => ?_) (.pure _)
    simp only [same.task, same.workerGroup]
  congr 1
  funext parameters
  rw [Settled.outcome_bind (environmentCode_settled (covers_anything task))
    ?last]
  case last =>
    refine fun _ => .read (fun same => ?_) (.pure _)
    simp only [same.task, same.workerGroup]
  rfl

theorem taskDefinition_ok_iff {task : TaskId} {record : TaskDefinition} :
    (taskDefinition task).outcome session = .ok record ↔
      ∃ parameters environment,
        (taskParameters task).outcome session = .ok parameters ∧
          (environmentCode task).outcome session = .ok environment ∧
          record = session.taskRecord task parameters environment := by
  rw [outcome_taskDefinition]
  constructor
  · intro completed
    obtain ⟨parameters, first, completed⟩ := Except.bind_ok completed
    obtain ⟨environment, second, completed⟩ := Except.bind_ok completed
    cases completed
    exact ⟨parameters, environment, first, second, rfl⟩
  · rintro ⟨parameters, environment, first, second, rfl⟩
    rw [first, second]
    rfl

theorem standardField_ok {parameters : List Parameter}
    {records : List ResourceRecord}
    (known : (session.task task).localParameters = .ok parameters)
    (resolved : (resourceList task).outcome session = .ok records)
    (field : StandardField) :
    (standardField task field).outcome session =
      .ok ((session.task task).standardValue parameters records field) := by
  rw [outcome_standardField]
  cases field with
  | localParams =>
      simp only [known]
      rfl
  | resourceList =>
      simp only [resolved]
      rfl
  | dependence => rfl
  | waitStartTimeout => rfl
  | conditionResult => rfl

theorem standardFields_ok {values : List (String × Json)}
    (completed : (standardFields task
      (session.task task).kind.standardFields).outcome session = .ok values) :
    ∃ parameters records,
      (session.task task).localParameters = .ok parameters ∧
        (resourceList task).outcome session = .ok records ∧
        values = (session.task task).kind.standardFields.map fun field =>
          (field.name,
            (session.task task).standardValue parameters records field) := by
  rw [outcome_standardFields] at completed
  -- Two fields can fail, and every kind has them both: their values are known
  -- from them, and then those of all the others.
  have all := Except.mapM_ok_iff.mp completed
  obtain ⟨_, -, first⟩ := exists_of_forall₂ all
    (TaskKind.localParams_mem _)
  obtain ⟨_, taken, -⟩ := Except.bind_ok first
  rw [outcome_standardField] at taken
  obtain ⟨parameters, known, -⟩ := Except.bind_ok taken
  obtain ⟨_, -, second⟩ := exists_of_forall₂ all
    (TaskKind.resourceList_mem _)
  obtain ⟨_, listed, -⟩ := Except.bind_ok second
  rw [outcome_standardField] at listed
  obtain ⟨records, resolved, -⟩ := Except.bind_ok listed
  refine ⟨parameters, records, known, resolved, ?_⟩
  simp only [standardField_ok known resolved] at all
  rw [← List.forall₂_eq_eq_eq, List.forall₂_map_right_iff]
  refine (List.Forall₂.imp ?_ all).flip
  rintro field value same
  cases same
  rfl

theorem taskParameters_ok {taken : SortedMap String Json}
    (completed : (taskParameters task).outcome session = .ok taken) :
    ∃ parameters records own,
      (session.task task).localParameters = .ok parameters ∧
        (resourceList task).outcome session = .ok records ∧
        (kindFields task).outcome session = .ok own ∧
        taken = .ofList
          (((session.task task).kind.standardFields.map fun field =>
              (field.name,
                (session.task task).standardValue parameters records field)) ++
            own) := by
  rw [outcome_taskParameters] at completed
  obtain ⟨standard, listed, completed⟩ := Except.bind_ok completed
  obtain ⟨own, added, completed⟩ := Except.bind_ok completed
  cases completed
  obtain ⟨parameters, records, known, resolved, rfl⟩ := standardFields_ok listed
  exact ⟨parameters, records, own, known, resolved, added, rfl⟩

/-- What the record of a task is made of. -/
structure Recorded (session : Session) (task : TaskId)
    (record : TaskDefinition) : Prop where
  code : record.code = (session.task task).code
  taskType : record.taskType = (session.task task).kind.type
  parameters : ∃ parameters records own,
    (session.task task).localParameters = .ok parameters ∧
      (resourceList task).outcome session = .ok records ∧
      (kindFields task).outcome session = .ok own ∧
      record.taskParams = .ofList
        (((session.task task).kind.standardFields.map fun field =>
            (field.name,
              (session.task task).standardValue parameters records field)) ++
          own)

theorem taskDefinition_ok {record : TaskDefinition}
    (completed : (taskDefinition task).outcome session = .ok record) :
    Recorded session task record := by
  obtain ⟨_, _, first, -, rfl⟩ := taskDefinition_ok_iff.mp completed
  exact ⟨rfl, rfl, taskParameters_ok first⟩

theorem outcome_definitionList (session : Session) (id : WorkflowId) :
    (definitionList id).outcome session =
      if (session.workflow id).tasks.isEmpty then .ok Workflow.emptyList
      else (do
        let records ← (session.taskIds id).mapM fun task =>
          (taskDefinition task).outcome session
        .ok (.array (records.map fun record => record.toJson.sorted))) := by
  rw [definitionList, Action.outcome_read]
  split
  · rfl
  · have settled : Settled session anything
        (taskDefinitions (session.taskIds id)) :=
      taskDefinitions_settled fun task _ => covers_anything task
    rw [settled.outcome_bind fun _ => .pure _, outcome_taskDefinitions]
    rfl

/-- The tasks of a workflow in the order of their codes. In place of no tasks
there is an empty object. -/
theorem definitionList_documents {id : WorkflowId} {documents : List Json}
    (told : (definitionList id).outcome session = .ok (.array documents)) :
    session.taskIds id = [] ∧ documents = [.object []] ∨
      ∃ records : List TaskDefinition,
        documents = records.map (·.toJson.sorted) ∧
          List.Forall₂ (Recorded session) (session.taskIds id) records := by
  rw [outcome_definitionList] at told
  split at told
  next empty =>
    cases told
    refine .inl ⟨?_, rfl⟩
    rw [taskIds, SortedMap.values, List.isEmpty_iff.mp empty, List.map_nil]
  next =>
    obtain ⟨records, all, told⟩ := Except.bind_ok told
    cases told
    exact .inr ⟨records, rfl,
      (Except.mapM_ok_iff.mp all).imp fun _ _ => taskDefinition_ok⟩

end Session

end Orchestration
