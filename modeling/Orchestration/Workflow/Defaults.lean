import Orchestration.Gateway.Record

namespace Orchestration

open Json (Document)

def defaultWorkerGroup : String := "default"

structure WorkflowDefaults where
  user : String := "userPythonGateway"
  project : String := "project-pydolphin"
  workerGroup : String := defaultWorkerGroup
  releaseState : String := "online"
  timeZone : String := "Asia/Shanghai"
  warningType : String := "NONE"
  executionType : String := "parallel"
  userPassword : String := "userPythonGateway"
  userEmail : String := "userPythonGateway@dolphinscheduler.com"
  userPhone : String := "11111111111"
  userTenant : String := "tenant_pydolphin"
  userQueue : String := "queuePythonGateway"
  userActive : Bool := true
deriving DecidableEq

namespace WorkflowDefaults

instance : Inhabited WorkflowDefaults := ⟨{}⟩

def toJson (defaults : WorkflowDefaults) : Json :=
  .object [("user", .string defaults.user),
    ("project", .string defaults.project),
    ("worker_group", .string defaults.workerGroup),
    ("release_state", .string defaults.releaseState),
    ("time_zone", .string defaults.timeZone),
    ("warning_type", .string defaults.warningType),
    ("execution_type", .string defaults.executionType),
    ("user_password", .string defaults.userPassword),
    ("user_email", .string defaults.userEmail),
    ("user_phone", .string defaults.userPhone),
    ("user_tenant", .string defaults.userTenant),
    ("user_queue", .string defaults.userQueue),
    ("user_active", .bool defaults.userActive)]

def decode? (document : Document) : Option WorkflowDefaults := do
  let fields ← document.fields?
    ["user", "project", "worker_group", "release_state", "time_zone",
      "warning_type", "execution_type", "user_password", "user_email",
      "user_phone", "user_tenant", "user_queue", "user_active"]
  let standard : WorkflowDefaults := {}
  let text (name : String) (value : String) : Option String :=
    fields.withDefault name Document.text? value
  return {
    user := ← text "user" standard.user
    project := ← text "project" standard.project
    workerGroup := ← text "worker_group" standard.workerGroup
    releaseState := ← text "release_state" standard.releaseState
    timeZone := ← text "time_zone" standard.timeZone
    warningType := ← text "warning_type" standard.warningType
    executionType := ← text "execution_type" standard.executionType
    userPassword := ← text "user_password" standard.userPassword
    userEmail := ← text "user_email" standard.userEmail
    userPhone := ← text "user_phone" standard.userPhone
    userTenant := ← text "user_tenant" standard.userTenant
    userQueue := ← text "user_queue" standard.userQueue
    userActive := ←
      fields.withDefault "user_active" Document.bool? standard.userActive }

/-- The record of a user, who need not be the default one. -/
def userDefinition (defaults : WorkflowDefaults) (name : String) :
    UserDefinition where
  name := name
  password := defaults.userPassword
  email := defaults.userEmail
  phone := defaults.userPhone
  tenantCode := defaults.userTenant
  queue := defaults.userQueue
  state := if defaults.userActive then 1 else 0

instance : JsonForm WorkflowDefaults := ⟨toJson, decode?⟩

end WorkflowDefaults

end Orchestration
