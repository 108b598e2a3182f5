import Orchestration.Bridge.Envelope
import Orchestration.Parameter.Basic
import Orchestration.Proofs.Json.Record
import Orchestration.Resource.Basic
import Orchestration.Workflow.Defaults

namespace Orchestration

open Json (Document FitsSigned32 held)

/-! Every record is read as it was written, and so it is out of an object that
shows it among other fields. A field that has a default may be left out. -/

/-- The types of records, the references to files among them. -/
inductive RecordType : Type → Type where
  | taskIdentity : RecordType TaskIdentity
  | resourceInfo : RecordType ResourceInfo
  | datasourceInfo : RecordType DatasourceInfo
  | workflowInfo : RecordType WorkflowInfo
  | userDefinition : RecordType UserDefinition
  | workflowDefinition : RecordType WorkflowDefinition
  | workflowStart : RecordType WorkflowStart
  | envelope : RecordType Envelope
  | parameter : RecordType Parameter
  | typedValue : RecordType TypedValue
  | resource : RecordType Resource
  | resourceReference : RecordType ResourceReference
  | resourceRecord : RecordType ResourceRecord
  | workflowDefaults : RecordType WorkflowDefaults

namespace RecordType

variable {α : Type}

@[reducible] def form : RecordType α → JsonForm α
  | taskIdentity | resourceInfo | datasourceInfo | workflowInfo
  | userDefinition | workflowDefinition | workflowStart | envelope | parameter
  | typedValue | resource | resourceReference | resourceRecord
  | workflowDefaults => inferInstance

/-- Integers are words of their sizes, and free values have their fields in the
order of the keys. -/
def Fits : RecordType α → α → Prop
  | taskIdentity, record =>
      FitsSigned record.code ∧ FitsSigned32 record.version
  | datasourceInfo, record => FitsSigned record.id
  | workflowInfo, record => FitsSigned record.code
  | userDefinition, record => FitsSigned32 record.state
  | workflowDefinition, record =>
      FitsSigned record.warningGroupId ∧
        record.timeout ≤ greatestUnsigned ∧
        FitsSigned32 record.releaseState
  | workflowStart, record => FitsSigned record.warningGroupId
  | envelope, record => record.data.sorted = record.data
  | parameter, record => record.value.sorted = record.value
  | typedValue, record => record.value.sorted = record.value
  | resourceInfo, _ | resource, _ | resourceReference, _ | resourceRecord, _
  | workflowDefaults, _ => True

def optional : RecordType α → List String
  | resourceInfo => ["description"]
  | workflowDefinition => ["scheduleJson", "otherParamsJson"]
  | envelope => ["msg", "data"]
  | resource => ["content", "description"]
  | workflowDefaults =>
      ["user", "project", "worker_group", "release_state", "time_zone",
        "warning_type", "execution_type", "user_password", "user_email",
        "user_phone", "user_tenant", "user_queue", "user_active"]
  | taskIdentity | datasourceInfo | workflowInfo | userDefinition
  | workflowStart | parameter | typedValue | resourceReference
  | resourceRecord => []

/-- The record with the defaults of the fields that were omitted. -/
def without (omitted : List String) : RecordType α → α → α
  | resourceInfo, record =>
      { record with
        description := held omitted "description" none record.description }
  | workflowDefinition, record =>
      { record with
        scheduleJson := held omitted "scheduleJson" none record.scheduleJson
        otherParamsJson :=
          held omitted "otherParamsJson" none record.otherParamsJson }
  | envelope, record =>
      { record with
        message := held omitted "msg" none record.message
        data := held omitted "data" .null record.data }
  | resource, record =>
      { record with
        content := held omitted "content" none record.content
        description := held omitted "description" none record.description }
  | workflowDefaults, record =>
      let standard : WorkflowDefaults := {}
      { user := held omitted "user" standard.user record.user
        project := held omitted "project" standard.project record.project
        workerGroup :=
          held omitted "worker_group" standard.workerGroup record.workerGroup
        releaseState :=
          held omitted "release_state" standard.releaseState
            record.releaseState
        timeZone := held omitted "time_zone" standard.timeZone record.timeZone
        warningType :=
          held omitted "warning_type" standard.warningType record.warningType
        executionType :=
          held omitted "execution_type" standard.executionType
            record.executionType
        userPassword :=
          held omitted "user_password" standard.userPassword
            record.userPassword
        userEmail :=
          held omitted "user_email" standard.userEmail record.userEmail
        userPhone :=
          held omitted "user_phone" standard.userPhone record.userPhone
        userTenant :=
          held omitted "user_tenant" standard.userTenant record.userTenant
        userQueue :=
          held omitted "user_queue" standard.userQueue record.userQueue
        userActive :=
          held omitted "user_active" standard.userActive record.userActive }
  | taskIdentity, record | datasourceInfo, record | workflowInfo, record
  | userDefinition, record | workflowStart, record | parameter, record
  | typedValue, record | resourceReference, record
  | resourceRecord, record => record

/-- The object shows the record as it was written, less some of the fields that
have a default. -/
def Shows (type : RecordType α) (record : α) (omitted : List String)
    (json : Json) : Prop :=
  (∀ name ∈ omitted, name ∈ type.optional) ∧
    ∃ written, type.form.encode record = .object written ∧
      Json.Shows written omitted json

variable {type : RecordType α} {record : α} {omitted : List String}
  {json : Json}

theorem Shows.decodes {written : List (String × Json)} {names : List String}
    {read : Json.Fields → Option α} (shows : type.Shows record omitted json)
    (encodes : type.form.encode record = .object written)
    (decodes : ∀ document,
      type.form.decode? document = (document.fields? names).bind read)
    (named : written.map Prod.fst = names) (distinct : names.Nodup)
    (reads : ∀ fields : Json.Fields, fields.Carries written omitted →
      (∀ name, name ∉ type.optional → name ∉ omitted) →
        read fields = some (type.without omitted record)) :
    type.form.ofJson? json = some (type.without omitted record) := by
  obtain ⟨within, same, encoded, shown⟩ := shows
  obtain rfl : written = same := Json.object.inj (encodes.symm.trans encoded)
  subst named
  obtain ⟨fields, found, carries⟩ := shown.carries distinct
  have kept (name : String) (needed : name ∉ type.optional) :
      name ∉ omitted := fun left => needed (within name left)
  calc type.form.ofJson? json
      = ((Document.ofJson json).fields? (written.map Prod.fst)).bind read :=
        decodes _
    _ = read fields := by rw [found, Option.bind_some]
    _ = some (type.without omitted record) := reads fields carries kept

theorem reads_taskIdentity {record : TaskIdentity}
    (fits : taskIdentity.Fits record)
    (shows : taskIdentity.Shows record omitted json) :
    taskIdentity.form.ofJson? json = some record :=
  shows.decodes rfl (fun _ => rfl) rfl (by decide) fun fields carries kept => by
    rw [carries.signed (kept "code" (by decide)) fits.1 rfl,
      carries.signed32 (kept "version" (by decide)) fits.2 rfl]
    rfl

theorem reads_resourceInfo {record : ResourceInfo}
    (shows : resourceInfo.Shows record omitted json) :
    resourceInfo.form.ofJson? json =
      some (resourceInfo.without omitted record) :=
  shows.decodes rfl (fun _ => rfl) rfl (by decide) fun fields carries kept => by
    have description := carries.withDefault "description"
      (Document.nullable? Document.text?) none rfl (Document.nullable?_text _)
    rw [carries.text (kept "fullName" (by decide)) rfl, description]
    rfl

theorem reads_datasourceInfo {record : DatasourceInfo}
    (fits : datasourceInfo.Fits record)
    (shows : datasourceInfo.Shows record omitted json) :
    datasourceInfo.form.ofJson? json = some record :=
  shows.decodes rfl (fun _ => rfl) rfl (by decide) fun fields carries kept => by
    rw [carries.signed (kept "id" (by decide)) fits rfl,
      carries.text (kept "type" (by decide)) rfl]
    rfl

theorem reads_workflowInfo {record : WorkflowInfo}
    (fits : workflowInfo.Fits record)
    (shows : workflowInfo.Shows record omitted json) :
    workflowInfo.form.ofJson? json = some record :=
  shows.decodes rfl (fun _ => rfl) rfl (by decide) fun fields carries kept => by
    rw [carries.signed (kept "code" (by decide)) fits rfl,
      carries.text (kept "name" (by decide)) rfl]
    rfl

theorem reads_userDefinition {record : UserDefinition}
    (fits : userDefinition.Fits record)
    (shows : userDefinition.Shows record omitted json) :
    userDefinition.form.ofJson? json = some record :=
  shows.decodes rfl (fun _ => rfl) rfl (by decide) fun fields carries kept => by
    rw [carries.text (kept "name" (by decide)) rfl,
      carries.text (kept "password" (by decide)) rfl,
      carries.text (kept "email" (by decide)) rfl,
      carries.text (kept "phone" (by decide)) rfl,
      carries.text (kept "tenantCode" (by decide)) rfl,
      carries.text (kept "queue" (by decide)) rfl,
      carries.signed32 (kept "state" (by decide)) fits rfl]
    rfl

theorem reads_workflowDefinition {record : WorkflowDefinition}
    (fits : workflowDefinition.Fits record)
    (shows : workflowDefinition.Shows record omitted json) :
    workflowDefinition.form.ofJson? json =
      some (workflowDefinition.without omitted record) :=
  shows.decodes rfl (fun _ => rfl) rfl (by decide) fun fields carries kept => by
    obtain ⟨warningGroupId, timeout, releaseState⟩ := fits
    have timeout := carries.required Document.unsigned?
      (kept "timeout" (by decide)) rfl (Document.unsigned?_ofNat timeout)
    have onlineSchedule := carries.required Document.bool?
      (kept "onlineSchedule" (by decide)) rfl rfl
    have scheduleJson := carries.optional "scheduleJson" Document.text? rfl
      (Document.nullable?_text _)
    have otherParamsJson := carries.optional "otherParamsJson" Document.text?
      rfl (Document.nullable?_text _)
    rw [carries.text (kept "user" (by decide)) rfl,
      carries.text (kept "project" (by decide)) rfl,
      carries.text (kept "name" (by decide)) rfl,
      carries.text (kept "description" (by decide)) rfl,
      carries.text (kept "globalParams" (by decide)) rfl,
      carries.text (kept "warningType" (by decide)) rfl,
      carries.signed (kept "warningGroupId" (by decide)) warningGroupId rfl,
      carries.text (kept "executionType" (by decide)) rfl, timeout,
      carries.text (kept "workerGroup" (by decide)) rfl,
      carries.signed32 (kept "releaseState" (by decide)) releaseState rfl,
      carries.text (kept "taskRelationJson" (by decide)) rfl,
      carries.text (kept "taskDefinitionJson" (by decide)) rfl, scheduleJson,
      onlineSchedule, otherParamsJson]
    rfl

theorem reads_workflowStart {record : WorkflowStart}
    (fits : workflowStart.Fits record)
    (shows : workflowStart.Shows record omitted json) :
    workflowStart.form.ofJson? json = some record :=
  shows.decodes rfl (fun _ => rfl) rfl (by decide) fun fields carries kept => by
    rw [carries.text (kept "user" (by decide)) rfl,
      carries.text (kept "project" (by decide)) rfl,
      carries.text (kept "workflowName" (by decide)) rfl,
      carries.text (kept "workerGroup" (by decide)) rfl,
      carries.text (kept "warningType" (by decide)) rfl,
      carries.signed (kept "warningGroupId" (by decide)) fits rfl]
    rfl

theorem reads_envelope {record : Envelope} (ordered : envelope.Fits record)
    (shows : envelope.Shows record omitted json) :
    envelope.form.ofJson? json = some (envelope.without omitted record) :=
  shows.decodes rfl (fun _ => rfl) rfl (by decide) fun fields carries kept => by
    have message := carries.withDefault "msg"
      (Document.nullable? Document.text?) none rfl (Document.nullable?_text _)
    have data := carries.withDefault "data" Document.value? .null rfl
      (Document.value?_ofJson ordered)
    rw [carries.text (kept "status" (by decide)) rfl, message, data]
    rfl

theorem reads_parameter {record : Parameter} (ordered : parameter.Fits record)
    (shows : parameter.Shows record omitted json) :
    parameter.form.ofJson? json = some record :=
  shows.decodes rfl (fun _ => rfl) rfl (by decide) fun fields carries kept => by
    have direction := carries.required Named.decode?
      (kept "direct" (by decide)) rfl (Named.decode?_toJson record.direction)
    have type := carries.required Named.decode?
      (kept "type" (by decide)) rfl (Named.decode?_toJson record.type)
    have value := carries.required Document.value?
      (kept "value" (by decide)) rfl (Document.value?_ofJson ordered)
    rw [carries.text (kept "prop" (by decide)) rfl, direction, type, value]
    rfl

theorem reads_typedValue {record : TypedValue}
    (ordered : typedValue.Fits record)
    (shows : typedValue.Shows record omitted json) :
    typedValue.form.ofJson? json = some record :=
  shows.decodes rfl (fun _ => rfl) rfl (by decide) fun fields carries kept => by
    have type := carries.required Named.decode?
      (kept "type" (by decide)) rfl (Named.decode?_toJson record.type)
    have value := carries.required Document.value?
      (kept "value" (by decide)) rfl (Document.value?_ofJson ordered)
    rw [type, value]
    rfl

theorem reads_resource {record : Resource}
    (shows : resource.Shows record omitted json) :
    resource.form.ofJson? json = some (resource.without omitted record) :=
  shows.decodes rfl (fun _ => rfl) rfl (by decide) fun fields carries kept => by
    have content := carries.withDefault "content"
      (Document.nullable? Document.text?) none rfl (Document.nullable?_text _)
    have description := carries.withDefault "description"
      (Document.nullable? Document.text?) none rfl (Document.nullable?_text _)
    dsimp only
    rw [carries.text (kept "name" (by decide)) rfl, content, description]
    rfl

theorem reads_resourceRecord {record : ResourceRecord}
    (shows : resourceRecord.Shows record omitted json) :
    resourceRecord.form.ofJson? json = some record :=
  shows.decodes rfl (fun _ => rfl) rfl (by decide) fun fields carries kept => by
    rw [carries.text (kept "resourceName" (by decide)) rfl]
    rfl

theorem reads_resourceReference {record : ResourceReference}
    (shows : resourceReference.Shows record omitted json) :
    resourceReference.form.ofJson? json = some record := by
  obtain ⟨within, written, encodes, shown⟩ := shows
  cases record with
  | named name => cases encodes
  | resolved fullName =>
      have recorded : resourceRecord.Shows ⟨fullName⟩ omitted json :=
        ⟨within, written, encodes, shown⟩
      have decoded := reads_resourceRecord recorded
      obtain @⟨given, others, apart, perm⟩ := shown
      have value := Document.toJson?_ofJson (.object given)
      change ResourceReference.decode? (.object (Document.ofFields given)) = _
      rw [Document.ofJson] at value
      simp only [ResourceReference.decode?, value]
      exact congrArg (Option.map _) decoded

theorem reads_workflowDefaults {record : WorkflowDefaults}
    (shows : workflowDefaults.Shows record omitted json) :
    workflowDefaults.form.ofJson? json =
      some (workflowDefaults.without omitted record) :=
  shows.decodes rfl (fun _ => rfl) rfl (by decide) fun fields carries kept => by
    have active :=
      carries.withDefault "user_active" Document.bool? true rfl rfl
    dsimp only
    rw [carries.textOr "user" _ rfl, carries.textOr "project" _ rfl,
      carries.textOr "worker_group" _ rfl,
      carries.textOr "release_state" _ rfl, carries.textOr "time_zone" _ rfl,
      carries.textOr "warning_type" _ rfl,
      carries.textOr "execution_type" _ rfl,
      carries.textOr "user_password" _ rfl, carries.textOr "user_email" _ rfl,
      carries.textOr "user_phone" _ rfl, carries.textOr "user_tenant" _ rfl,
      carries.textOr "user_queue" _ rfl, active]
    rfl

theorem reads (fits : type.Fits record)
    (shows : type.Shows record omitted json) :
    type.form.ofJson? json = some (type.without omitted record) := by
  cases type with
  | taskIdentity => exact reads_taskIdentity fits shows
  | resourceInfo => exact reads_resourceInfo shows
  | datasourceInfo => exact reads_datasourceInfo fits shows
  | workflowInfo => exact reads_workflowInfo fits shows
  | userDefinition => exact reads_userDefinition fits shows
  | workflowDefinition => exact reads_workflowDefinition fits shows
  | workflowStart => exact reads_workflowStart fits shows
  | envelope => exact reads_envelope fits shows
  | parameter => exact reads_parameter fits shows
  | typedValue => exact reads_typedValue fits shows
  | resource => exact reads_resource shows
  | resourceReference => exact reads_resourceReference shows
  | resourceRecord => exact reads_resourceRecord shows
  | workflowDefaults => exact reads_workflowDefaults shows

theorem without_nil (type : RecordType α) (record : α) :
    type.without [] record = record := by
  cases type <;> rfl

theorem ofJson?_encode (fits : type.Fits record) :
    type.form.ofJson? (type.form.encode record) = some record := by
  by_cases isObject : ∃ written, type.form.encode record = .object written
  · obtain ⟨written, encodes⟩ := isObject
    have shows : type.Shows record [] (type.form.encode record) :=
      ⟨nofun, written, encodes, encodes ▸ Json.shows_self written⟩
    rw [reads fits shows, without_nil]
  · cases type with
    | resourceReference =>
        cases record with
        | named name => rfl
        | resolved fullName => exact absurd ⟨_, rfl⟩ isObject
    | _ => exact absurd ⟨_, rfl⟩ isObject

/-- What is written for a record is read as the record. Fields that the record
does not have change nothing about it, and instead of fields that were omitted
it gets their defaults. -/
theorem round_trip (type : RecordType α) {record : α}
    (fits : type.Fits record) :
    type.form.ofJson? (type.form.encode record) = some record ∧
      ∀ omitted json, type.Shows record omitted json →
        type.form.ofJson? json = some (type.without omitted record) :=
  ⟨ofJson?_encode fits, fun _ _ shows => reads fits shows⟩

theorem round_trip_acknowledged :
    let reply : Envelope :=
      { status := "SUCCESS", message := some "done",
        data := .object [("code", .ofInt 1)] }
    envelope.Fits reply ∧
      JsonForm.ofJson? (JsonForm.encode reply) = some reply ∧
      JsonForm.ofJson? (.object [("trace", .null), ("data", reply.data),
        ("status", .string "SUCCESS")]) =
          some { reply with message := none } := by
  intro reply
  have fits : envelope.Fits reply := by
    change reply.data.sorted = reply.data
    decide +kernel
  obtain ⟨same, shown⟩ := round_trip envelope fits
  have shows : envelope.Shows reply ["msg"]
      (.object [("trace", .null), ("data", reply.data),
        ("status", .string "SUCCESS")]) :=
    ⟨by decide, _, rfl,
      @Json.Shows.intro _ _ _ [("trace", .null)] (by decide +kernel)
        (by decide +kernel)⟩
  exact ⟨fits, same, shown _ _ shows⟩

example : JsonForm.ofJson? (.object []) = some ({} : WorkflowDefaults) := rfl

end RecordType

end Orchestration
