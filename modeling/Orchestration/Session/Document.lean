import Orchestration.Session.Ownership
import Orchestration.Task.Definition

namespace Orchestration

namespace Session

def synthesizeRoots (session : Session) (id : WorkflowId) : Session :=
  session.updateWorkflow id Workflow.withRoots

/-- A switch needs a variable: some parameter of the workflow or of a task. -/
def validate (session : Session) (id : WorkflowId) : Except Error Unit :=
  let tasks := session.tasksIn id
  if tasks.any Task.isSwitch && (session.workflow id).parameters.isEmpty &&
      tasks.all fun task => !task.hasLocalParameters then
    .error (.parameter .noSwitchVariable)
  else .ok ()

def resourceList (id : TaskId) : Action (List ResourceRecord) := do
  let session ← get
  let task := session.task id
  let user := (session.owner id).map fun id => (session.workflow id).user
  Action.exchange task.gateway
    (ResourceReference.resolveAll user task.resources)

def standardField (id : TaskId) (field : StandardField) : Action Json := do
  let task := (← get).task id
  match field with
  | .localParams =>
      let parameters ← Action.ofExcept task.localParameters
      return (Json.array (parameters.map Parameter.toJson)).sorted
  | .resourceList =>
      let records ← resourceList id
      return .array (records.map ResourceRecord.toJson)
  | .dependence => return .ofMap task.options.dependence
  | .waitStartTimeout => return .ofMap task.options.waitStartTimeout
  | .conditionResult => return task.options.conditionResult.toJson.sorted

def standardFields (id : TaskId) :
    List StandardField → Action (List (String × Json))
  | [] => return []
  | field :: rest => do
      let value ← standardField id field
      let fields ← standardFields id rest
      return (field.name, value) :: fields

def requireOwner (id : TaskId) (kind : String) : Action Workflow := do
  let session ← get
  match session.owner id with
  | some id => return session.workflow id
  | none => Action.ofExcept (.error (.parameter (.workflowRequiredFor kind)))

def kindFields (id : TaskId) : Action (List (String × Json)) := do
  let session ← get
  match (session.task id).kind with
  | .shell body => return [("rawScript", .string body)]
  | .python body => return [("rawScript", .string body)]
  | .http call => Action.ofExcept call.taskParameters
  | .sql statement =>
      let workflow ← requireOwner id "Sql"
      let datasource ←
        Action.ask workflow.gateway
          (.datasource statement.datasource statement.datasourceType)
      return statement.taskParameters datasource
  | .subWorkflow name =>
      let workflow ← requireOwner id "SubWorkflow"
      let info ←
        Action.ask workflow.gateway
          (.workflowInfo workflow.user workflow.project name)
      return [("processDefinitionCode", .ofInt info.code)]
  | .switch switch =>
      return [("switchResult",
        switch.result fun id => (session.task id).code)]
  | .custom _ parameters => return parameters.entries

/-- Standard fields; those of the kind take precedence. -/
def taskParameters (id : TaskId) : Action (SortedMap String Json) := do
  let kind := ((← get).task id).kind
  let standard ← standardFields id kind.standardFields
  let own ← kindFields id
  return .ofList (standard ++ own)

def environmentCode (id : TaskId) : Action (Option Int) := do
  let task := (← get).task id
  match task.options.environment with
  | some name =>
      let code ← Action.ask task.gateway (.environment name)
      return some code
  | none => return none

def workerGroup (session : Session) (id : TaskId) : String :=
  match (session.task id).options.workerGroup, session.owner id with
  | some group, _ => group
  | none, some id => (session.workflow id).workerGroup
  | none, none => defaultWorkerGroup

def taskDefinition (id : TaskId) : Action TaskDefinition := do
  let parameters ← taskParameters id
  let environment ← environmentCode id
  let session ← get
  let task := session.task id
  return {
    code := task.code
    name := task.name
    version := task.version
    description := task.options.description
    delayTime := task.options.delayMinutes
    taskType := task.kind.type
    taskParams := parameters
    flag := task.options.flag
    taskPriority := task.options.priority
    workerGroup := session.workerGroup id
    environmentCode := environment
    failRetryTimes := task.options.retryTimes
    failRetryInterval := task.options.retryInterval
    timeoutFlag := task.options.timeoutFlag
    timeoutNotifyStrategy := task.options.timeoutStrategy
    timeout := task.options.timeoutMinutes
    isCache := .ofBool task.options.cached
    taskGroupId := task.options.groupId
    taskGroupPriority := task.options.groupPriority
    cpuQuota := task.workerLimit task.options.cpuQuota
    memoryMax := task.workerLimit task.options.memoryMax }

def taskDefinitions : List TaskId → Action (List TaskDefinition)
  | [] => return []
  | id :: rest => do
      let definition ← taskDefinition id
      let definitions ← taskDefinitions rest
      return definition :: definitions

def definitionList (id : WorkflowId) : Action Json := do
  let session ← get
  if (session.workflow id).tasks.isEmpty then return Workflow.emptyList
  else
    let definitions ← taskDefinitions (session.taskIds id)
    return .array (definitions.map fun definition => definition.toJson.sorted)

def relationList (id : WorkflowId) : Action Json := do
  if ((← get).workflow id).tasks.isEmpty then return Workflow.emptyList
  else
    modify (·.synthesizeRoots id)
    return ((← get).workflow id).relationList.sorted

def parameterList (workflow : Workflow) : Json :=
  .array (workflow.globalParameters.map Parameter.toJson)

def definition (id : WorkflowId) : Action WorkflowDefinition := do
  let definitions ← definitionList id
  let relations ← relationList id
  let session ← get
  let workflow := session.workflow id
  return {
    user := workflow.user
    project := workflow.project
    name := workflow.name
    description := workflow.description.getD ""
    globalParams := (parameterList workflow).compact
    warningType := workflow.warningType.name
    warningGroupId := workflow.warningGroupId
    executionType := workflow.executionType.name
    timeout := workflow.timeout
    workerGroup := workflow.workerGroup
    releaseState := workflow.releaseState.code
    taskRelationJson := relations.compact
    taskDefinitionJson := definitions.compact
    scheduleJson := (workflow.scheduleDescriptor session.now).map Json.compact
    onlineSchedule := workflow.onlineSchedule
    otherParamsJson := none }

end Session

structure WorkflowSummary where
  name : String
  description : Option String
  project : String
  workerGroup : String
  warningType : WarningType
  warningGroupId : Int
  executionType : ExecutionType
  timeout : Nat
  releaseState : ReleaseState
  parameters : Json
  definitions : Json
  relations : Json
  resources : List String
deriving DecidableEq

namespace WorkflowSummary

def toJson (summary : WorkflowSummary) : Json :=
  .object [("name", .string summary.name),
    ("description", .ofOption .string summary.description),
    ("project", .string summary.project),
    ("workerGroup", .string summary.workerGroup),
    ("warningType", Named.toJson summary.warningType),
    ("warningGroupId", .ofInt summary.warningGroupId),
    ("executionType", Named.toJson summary.executionType),
    ("timeout", .ofNat summary.timeout),
    ("releaseState", .ofInt summary.releaseState.code),
    ("param", summary.parameters),
    ("taskDefinitionJson", summary.definitions),
    ("taskRelationJson", summary.relations),
    ("resourceList", .strings summary.resources)]

end WorkflowSummary

namespace Session

def summary (id : WorkflowId) : Action WorkflowSummary := do
  let definitions ← definitionList id
  let relations ← relationList id
  let workflow := (← get).workflow id
  return {
    name := workflow.name
    description := workflow.description
    project := workflow.project
    workerGroup := workflow.workerGroup
    warningType := workflow.warningType
    warningGroupId := workflow.warningGroupId
    executionType := workflow.executionType
    timeout := workflow.timeout
    releaseState := workflow.releaseState
    parameters := parameterList workflow
    definitions := definitions
    relations := relations
    resources := workflow.resources.map (·.name) }

end Session

end Orchestration
