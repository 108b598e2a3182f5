import Orchestration.Json.Record

namespace Orchestration

open Json (Document)

structure TaskIdentity where
  code : Int
  version : Int
deriving DecidableEq

namespace TaskIdentity

def toJson (identity : TaskIdentity) : Json :=
  .object [("code", .ofInt identity.code), ("version", .ofInt identity.version)]

def decode? (document : Document) : Option TaskIdentity := do
  let fields ← document.fields? ["code", "version"]
  return {
    code := ← fields.required "code" Document.signed?
    version := ← fields.required "version" Document.signed32? }

instance : JsonForm TaskIdentity := ⟨toJson, decode?⟩

end TaskIdentity

structure ResourceInfo where
  fullName : String
  description : Option String := none
deriving DecidableEq

namespace ResourceInfo

def toJson (info : ResourceInfo) : Json :=
  .object [("fullName", .string info.fullName),
    ("description", .ofOption .string info.description)]

def decode? (document : Document) : Option ResourceInfo := do
  let fields ← document.fields? ["fullName", "description"]
  return {
    fullName := ← fields.required "fullName" Document.text?
    description := ←
      fields.withDefault "description" (Document.nullable? Document.text?) none }

instance : JsonForm ResourceInfo := ⟨toJson, decode?⟩

end ResourceInfo

structure DatasourceInfo where
  id : Int
  type : String
deriving DecidableEq

namespace DatasourceInfo

def toJson (info : DatasourceInfo) : Json :=
  .object [("id", .ofInt info.id), ("type", .string info.type)]

def decode? (document : Document) : Option DatasourceInfo := do
  let fields ← document.fields? ["id", "type"]
  return {
    id := ← fields.required "id" Document.signed?
    type := ← fields.required "type" Document.text? }

instance : JsonForm DatasourceInfo := ⟨toJson, decode?⟩

end DatasourceInfo

structure WorkflowInfo where
  code : Int
  name : String
deriving DecidableEq

namespace WorkflowInfo

def toJson (info : WorkflowInfo) : Json :=
  .object [("code", .ofInt info.code), ("name", .string info.name)]

def decode? (document : Document) : Option WorkflowInfo := do
  let fields ← document.fields? ["code", "name"]
  return {
    code := ← fields.required "code" Document.signed?
    name := ← fields.required "name" Document.text? }

instance : JsonForm WorkflowInfo := ⟨toJson, decode?⟩

end WorkflowInfo

structure UserDefinition where
  name : String
  password : String
  email : String
  phone : String
  tenantCode : String
  queue : String
  state : Int
deriving DecidableEq

namespace UserDefinition

def toJson (user : UserDefinition) : Json :=
  .object [("name", .string user.name), ("password", .string user.password),
    ("email", .string user.email), ("phone", .string user.phone),
    ("tenantCode", .string user.tenantCode), ("queue", .string user.queue),
    ("state", .ofInt user.state)]

def decode? (document : Document) : Option UserDefinition := do
  let fields ← document.fields?
    ["name", "password", "email", "phone", "tenantCode", "queue", "state"]
  return {
    name := ← fields.required "name" Document.text?
    password := ← fields.required "password" Document.text?
    email := ← fields.required "email" Document.text?
    phone := ← fields.required "phone" Document.text?
    tenantCode := ← fields.required "tenantCode" Document.text?
    queue := ← fields.required "queue" Document.text?
    state := ← fields.required "state" Document.signed32? }

instance : JsonForm UserDefinition := ⟨toJson, decode?⟩

end UserDefinition

/-- A workflow as it is submitted. The fields whose names end in `Json`, and the
global parameters, hold JSON text. -/
structure WorkflowDefinition where
  user : String
  project : String
  name : String
  description : String
  globalParams : String
  warningType : String
  warningGroupId : Int
  executionType : String
  timeout : Nat
  workerGroup : String
  releaseState : Int
  taskRelationJson : String
  taskDefinitionJson : String
  scheduleJson : Option String
  onlineSchedule : Bool
  otherParamsJson : Option String
deriving DecidableEq

namespace WorkflowDefinition

def toJson (definition : WorkflowDefinition) : Json :=
  .object [("user", .string definition.user),
    ("project", .string definition.project),
    ("name", .string definition.name),
    ("description", .string definition.description),
    ("globalParams", .string definition.globalParams),
    ("warningType", .string definition.warningType),
    ("warningGroupId", .ofInt definition.warningGroupId),
    ("executionType", .string definition.executionType),
    ("timeout", .ofNat definition.timeout),
    ("workerGroup", .string definition.workerGroup),
    ("releaseState", .ofInt definition.releaseState),
    ("taskRelationJson", .string definition.taskRelationJson),
    ("taskDefinitionJson", .string definition.taskDefinitionJson),
    ("scheduleJson", .ofOption .string definition.scheduleJson),
    ("onlineSchedule", .bool definition.onlineSchedule),
    ("otherParamsJson", .ofOption .string definition.otherParamsJson)]

def decode? (document : Document) : Option WorkflowDefinition := do
  let fields ← document.fields?
    ["user", "project", "name", "description", "globalParams", "warningType",
      "warningGroupId", "executionType", "timeout", "workerGroup",
      "releaseState", "taskRelationJson", "taskDefinitionJson", "scheduleJson",
      "onlineSchedule", "otherParamsJson"]
  return {
    user := ← fields.required "user" Document.text?
    project := ← fields.required "project" Document.text?
    name := ← fields.required "name" Document.text?
    description := ← fields.required "description" Document.text?
    globalParams := ← fields.required "globalParams" Document.text?
    warningType := ← fields.required "warningType" Document.text?
    warningGroupId := ← fields.required "warningGroupId" Document.signed?
    executionType := ← fields.required "executionType" Document.text?
    timeout := ← fields.required "timeout" Document.unsigned?
    workerGroup := ← fields.required "workerGroup" Document.text?
    releaseState := ← fields.required "releaseState" Document.signed32?
    taskRelationJson := ← fields.required "taskRelationJson" Document.text?
    taskDefinitionJson := ← fields.required "taskDefinitionJson" Document.text?
    scheduleJson := ← fields.optional "scheduleJson" Document.text?
    onlineSchedule := ← fields.required "onlineSchedule" Document.bool?
    otherParamsJson := ← fields.optional "otherParamsJson" Document.text? }

instance : JsonForm WorkflowDefinition := ⟨toJson, decode?⟩

end WorkflowDefinition

structure WorkflowStart where
  user : String
  project : String
  workflowName : String
  workerGroup : String
  warningType : String
  warningGroupId : Int
deriving DecidableEq

namespace WorkflowStart

def toJson (start : WorkflowStart) : Json :=
  .object [("user", .string start.user), ("project", .string start.project),
    ("workflowName", .string start.workflowName),
    ("workerGroup", .string start.workerGroup),
    ("warningType", .string start.warningType),
    ("warningGroupId", .ofInt start.warningGroupId)]

def decode? (document : Document) : Option WorkflowStart := do
  let fields ← document.fields?
    ["user", "project", "workflowName", "workerGroup", "warningType",
      "warningGroupId"]
  return {
    user := ← fields.required "user" Document.text?
    project := ← fields.required "project" Document.text?
    workflowName := ← fields.required "workflowName" Document.text?
    workerGroup := ← fields.required "workerGroup" Document.text?
    warningType := ← fields.required "warningType" Document.text?
    warningGroupId := ← fields.required "warningGroupId" Document.signed? }

instance : JsonForm WorkflowStart := ⟨toJson, decode?⟩

end WorkflowStart

end Orchestration
