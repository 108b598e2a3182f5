import Orchestration.Proofs.Json.Access
import Orchestration.Proofs.Session.Missing

namespace Orchestration

/-! The fields of task parameters: which there are, and whose values they have
where a name comes up twice. -/

namespace SortedMap

variable {ν : Type}

theorem mem_keys_ofList_iff {entries : List (String × ν)} {name : String} :
    name ∈ (ofList entries).keys ↔ name ∈ entries.map (·.1) := by
  rw [mem_keys_iff, find?_ofList, ← Option.isSome_iff_exists,
    List.lookup_isSome_iff, List.mem_map]
  refine exists_congr fun entry => and_congr List.mem_reverse ?_
  rw [beq_iff_eq, eq_comm]

theorem find?_ofList_append (first second : List (String × ν))
    (name : String) :
    (ofList (first ++ second)).find? name =
      ((ofList second).find? name).or ((ofList first).find? name) := by
  rw [find?_ofList, find?_ofList, find?_ofList, List.reverse_append,
    List.lookup_append]

end SortedMap

theorem StandardField.name_injective : Function.Injective StandardField.name :=
  fun _ _ (same : Named.name _ = Named.name _) => Named.name_injective same

namespace TaskKind

def ownNames : TaskKind → List String
  | shell _ | python _ => ["rawScript"]
  | http _ => ["url", "httpMethod", "httpParams", "httpCheckCondition",
      "condition", "connectTimeout", "socketTimeout"]
  | sql _ => ["sql", "sqlType", "segmentSeparator", "preStatements",
      "postStatements", "displayRows", "type", "datasource"]
  | subWorkflow _ => ["processDefinitionCode"]
  | switch _ => ["switchResult"]
  | custom _ parameters => parameters.keys

variable {kind : TaskKind} {field : StandardField}

theorem mem_standardFields_iff :
    field ∈ kind.standardFields ↔ field ∉ kind.ignoredFields := by
  rw [standardFields, List.mem_filter]
  simp [Named.complete field]

/-- Only raw parameters can have the name of a standard field. -/
theorem name_notMem_ownNames (modelled : ∀ type raw, kind ≠ .custom type raw)
    (field : StandardField) : field.name ∉ kind.ownNames := by
  cases kind with
  | custom type raw => exact absurd rfl (modelled type raw)
  | _ => cases field <;> simp [ownNames, StandardField.name]

end TaskKind

namespace Session

open Orchestration.Action (Settled)

variable {session after : Session} {task : TaskId}

theorem ask_pure_ok {gateway : GatewayId} {request : Gateway.Request α}
    {next : α → β} {result : β} (lookup : request.method.isLookup)
    (told : (Action.ask gateway request >>= fun value =>
      pure (next value)).outcome session = .ok result) :
    ∃ value, (Action.ask gateway request).outcome session = .ok value ∧
      next value = result := by
  have settled : Settled session anything (Action.ask gateway request) :=
    .ask gateway lookup trivial
  rw [settled.outcome_bind fun _ => .pure _] at told
  obtain ⟨value, asked, told⟩ := Except.bind_ok told
  exact ⟨value, asked, Except.ok.inj told⟩

inductive OwnFields (session : Session) :
    TaskKind → List (String × Json) → Prop where
  | shell (body : String) :
      OwnFields session (.shell body) [("rawScript", .string body)]
  | python (body : String) :
      OwnFields session (.python body) [("rawScript", .string body)]
  | http {call : HttpCall} {own : List (String × Json)}
      (told : call.taskParameters = .ok own) : OwnFields session (.http call) own
  | sql {statement : Statement} {datasource : DatasourceInfo}
      (asked : ∃ gateway, (Action.ask gateway (.datasource statement.datasource
        statement.datasourceType)).outcome session = .ok datasource) :
      OwnFields session (.sql statement) (statement.taskParameters datasource)
  | subWorkflow {name : String} {info : WorkflowInfo}
      (asked : ∃ gateway user project, (Action.ask gateway
        (.workflowInfo user project name)).outcome session = .ok info) :
      OwnFields session (.subWorkflow name)
        [("processDefinitionCode", .ofInt info.code)]
  | switch (choice : Switch) :
      OwnFields session (.switch choice)
        [("switchResult", choice.result fun id => (session.task id).code)]
  | custom (type : String) (parameters : SortedMap String Json) :
      OwnFields session (.custom type parameters) parameters.entries

theorem kindFields_ok {own : List (String × Json)}
    (completed : (kindFields task).outcome session = .ok own) :
    OwnFields session (session.task task).kind own := by
  rw [kindFields, Action.outcome_read] at completed
  cases kind : (session.task task).kind <;> rw [kind] at completed
  case http call => exact .http completed
  case sql statement =>
    dsimp only at completed
    rw [outcome_requireOwner] at completed
    split at completed
    · obtain ⟨datasource, asked, rfl⟩ := ask_pure_ok rfl completed
      exact .sql ⟨_, asked⟩
    · cases completed
  case subWorkflow name =>
    dsimp only at completed
    rw [outcome_requireOwner] at completed
    split at completed
    · obtain ⟨info, asked, rfl⟩ := ask_pure_ok rfl completed
      exact .subWorkflow ⟨_, _, _, asked⟩
    · cases completed
  all_goals
    cases completed
    constructor

theorem OwnFields.names {kind : TaskKind} {own : List (String × Json)}
    (fields : OwnFields session kind own) : own.map (·.1) = kind.ownNames := by
  cases fields with
  | http told =>
      obtain ⟨_, -, told⟩ := Except.bind_ok told
      cases told
      rfl
  | _ => rfl

section Values

variable {taken : SortedMap String Json} {parameters : List Parameter}
  {records : List ResourceRecord} {own : List (String × Json)}

def allFields (task : Task) (parameters : List Parameter)
    (records : List ResourceRecord) (own : List (String × Json)) :
    SortedMap String Json :=
  .ofList ((task.kind.standardFields.map fun field =>
    (field.name, task.standardValue parameters records field)) ++ own)

theorem mem_keys_allFields {task : Task} {name : String} :
    name ∈ (allFields task parameters records own).keys ↔
      (∃ field, field ∉ task.kind.ignoredFields ∧ field.name = name) ∨
        name ∈ own.map (·.1) := by
  rw [allFields, SortedMap.mem_keys_ofList_iff, List.map_append,
    List.mem_append, List.map_map, List.mem_map]
  simp only [Function.comp, TaskKind.mem_standardFields_iff]

theorem notMem_keys_allFields {task : Task} {field : StandardField}
    (ignored : field ∈ task.kind.ignoredFields)
    (free : field.name ∉ own.map (·.1)) :
    field.name ∉ (allFields task parameters records own).keys := by
  intro listed
  rcases mem_keys_allFields.mp listed with ⟨other, written, same⟩ | own
  · cases StandardField.name_injective same
    exact written ignored
  · exact free own

theorem find?_allFields_own {task : Task} {name : String}
    (member : name ∈ own.map (·.1)) :
    (allFields task parameters records own).find? name =
      own.reverse.lookup name := by
  obtain ⟨value, last⟩ := SortedMap.mem_keys_iff.mp
    (SortedMap.mem_keys_ofList_iff.mpr member)
  rw [allFields, SortedMap.find?_ofList_append, last, Option.some_or, ← last,
    SortedMap.find?_ofList]

private theorem lookup_standard {task : Task} {field : StandardField}
    {fields : List StandardField} (member : field ∈ fields) :
    (fields.map fun field => (field.name,
      task.standardValue parameters records field)).lookup field.name =
        some (task.standardValue parameters records field) := by
  induction fields with
  | nil => cases member
  | cons first rest induction =>
      rw [List.map_cons, List.lookup_cons]
      by_cases same : field = first
      · rw [same, beq_self_eq_true]
      · have apart : field.name ≠ first.name := by
          cases field <;> cases first <;> simp_all [StandardField.name]
        rw [beq_false_of_ne apart]
        exact induction ((List.mem_cons.mp member).resolve_left same)

theorem find?_allFields_standard {task : Task} {field : StandardField}
    (written : field ∉ task.kind.ignoredFields)
    (free : field.name ∉ own.map (·.1)) :
    (allFields task parameters records own).find? field.name =
      some (task.standardValue parameters records field) := by
  have absent : (SortedMap.ofList own).find? field.name = none :=
    SortedMap.find?_eq_none_iff.mpr (mt SortedMap.mem_keys_ofList_iff.mp free)
  rw [allFields, SortedMap.find?_ofList_append, absent, Option.none_or,
    SortedMap.find?_ofList, ← List.map_reverse]
  exact lookup_standard
    (List.mem_reverse.mpr (TaskKind.mem_standardFields_iff.mpr written))

end Values

end Session

namespace ConditionResult

theorem targets_eq (codes : List Int) :
    targets codes =
      if codes = [] then .array [.string ""] else .array (codes.map .ofInt) := by
  cases codes <;> rfl

@[simp] theorem sorted_targets (codes : List Int) :
    (targets codes).sorted = targets codes := by
  rw [targets_eq]
  split
  · rfl
  · rw [Json.sorted, Json.sortedItems_eq, List.map_map]
    rfl

theorem sorted_toJson (result : ConditionResult) :
    result.toJson.sorted = .object [("failedNode", targets result.failed),
      ("successNode", targets result.success)] := by
  have less : "failedNode" < "successNode" := by decide
  rw [toJson, Json.sorted, Json.sortedFields_eq]
  simp [Json.ofMap, SortedMap.ofList, SortedMap.insert, SortedMap.upsertIn,
    SortedMap.empty, less]

end ConditionResult

namespace TaskDefinition

theorem field?_limit {definition : TaskDefinition} :
    definition.toJson.sorted.field? "cpuQuota" =
        definition.cpuQuota.map .ofInt ∧
      definition.toJson.sorted.field? "memoryMax" =
        definition.memoryMax.map .ofInt := by
  rw [toJson]
  constructor
  · cases quota : definition.cpuQuota with
    | none =>
        apply Json.field?_sorted_none
        cases definition.memoryMax <;> simp [field?]
    | some value =>
        apply Json.field?_sorted_ofInt
        cases definition.memoryMax <;> simp [field?, List.lookup_cons]
  · cases limit : definition.memoryMax with
    | none =>
        apply Json.field?_sorted_none
        cases definition.cpuQuota <;> simp [field?]
    | some value =>
        apply Json.field?_sorted_ofInt
        cases definition.cpuQuota <;> simp [field?]

end TaskDefinition

namespace TaskKind

def IsLimited (kind : TaskKind) : Prop :=
  (∃ body, kind = shell body) ∨ (∃ body, kind = python body) ∨
    ∃ type raw, kind = custom type raw

theorem hasWorkerLimits_iff {kind : TaskKind} :
    kind.hasWorkerLimits ↔ kind.IsLimited := by
  cases kind <;> simp [hasWorkerLimits, IsLimited]

end TaskKind

namespace Session

variable {session : Session} {task : TaskId}

theorem taskRecord_limits {parameters : SortedMap String Json}
    {environment : Option Int} {record : TaskDefinition}
    (made : record = session.taskRecord task parameters environment) :
    ((session.task task).kind.IsLimited →
        record.cpuQuota =
            some ((session.task task).options.cpuQuota.getD (-1)) ∧
          record.memoryMax =
            some ((session.task task).options.memoryMax.getD (-1))) ∧
      (¬ (session.task task).kind.IsLimited →
        record.cpuQuota = none ∧ record.memoryMax = none) := by
  subst made
  rw [← TaskKind.hasWorkerLimits_iff]
  exact ⟨fun limited => ⟨if_pos limited, if_pos limited⟩,
    fun unlimited => ⟨if_neg unlimited, if_neg unlimited⟩⟩

/-- Task parameters have the standard fields that the kind of the task does not
ignore and the fields of the kind itself. Where a name is among both, which only
happens to raw parameters, the kind has the last word; every other field has the
value that was worked out for it. A record of the task has these parameters, and
it has limits if the kind does, with minus one for no limit. -/
theorem taskParameters_exact {after : Session} {taken : SortedMap String Json}
    (completed : (taskParameters task).run session = (.ok taken, after)) :
    let kind := (session.task task).kind
    let options := (session.task task).options
    let targets := fun codes : List Int =>
      if codes = [] then Json.array [.string ""] else .array (codes.map .ofInt)
    (∀ name, name ∈ taken.keys ↔
        (∃ field, field ∉ kind.ignoredFields ∧ field.name = name) ∨
          name ∈ kind.ownNames) ∧
      (∀ type raw, kind = .custom type raw → ∀ name value,
        raw.find? name = some value → taken.find? name = some value) ∧
      ((∀ type raw, kind ≠ .custom type raw) →
        ∀ field : StandardField, field.name ∉ kind.ownNames) ∧
      (∃ parameters records own,
        (session.task task).localParameters = .ok parameters ∧
          (resourceList task).outcome session = .ok records ∧
          (kindFields task).outcome session = .ok own ∧
          (∀ name ∈ kind.ownNames,
            taken.find? name = own.reverse.lookup name) ∧
          ∀ field, field ∉ kind.ignoredFields → field.name ∉ kind.ownNames →
            taken.find? field.name = some (match field with
              | .localParams =>
                  (Json.array (parameters.map Parameter.toJson)).sorted
              | .resourceList => .array (records.map ResourceRecord.toJson)
              | .dependence => .ofMap options.dependence
              | .waitStartTimeout => .ofMap options.waitStartTimeout
              | .conditionResult =>
                  .object [("failedNode",
                      targets options.conditionResult.failed),
                    ("successNode",
                      targets options.conditionResult.success)])) ∧
      (∀ choice, kind = .switch choice →
        "conditionResult" ∉ taken.keys ∧ "dependence" ∉ taken.keys) ∧
      ∀ record later,
        (taskDefinition task).run session = (.ok record, later) →
        record.taskParams = taken ∧
          (kind.IsLimited →
            record.cpuQuota = some (options.cpuQuota.getD (-1)) ∧
              record.memoryMax = some (options.memoryMax.getD (-1))) ∧
          (¬ kind.IsLimited →
            record.cpuQuota = none ∧ record.memoryMax = none) ∧
          record.toJson.sorted.field? "cpuQuota" =
            record.cpuQuota.map .ofInt ∧
          record.toJson.sorted.field? "memoryMax" =
            record.memoryMax.map .ofInt := by
  intro kind options targets
  have outcome : (taskParameters task).outcome session = .ok taken :=
    congrArg Prod.fst completed
  obtain ⟨parameters, records, own, known, resolved, told, made⟩ :=
    taskParameters_ok outcome
  have fields := kindFields_ok told
  have all : taken = allFields (session.task task) parameters records own := made
  have ignored : ∀ field ∈ kind.ignoredFields, ∀ choice,
      kind = .switch choice → field.name ∉ taken.keys := by
    intro field member choice switched
    rw [all]
    apply notMem_keys_allFields member
    rw [fields.names]
    exact TaskKind.name_notMem_ownNames (by simp [kind, switched]) field
  refine ⟨fun name => ?_, fun type raw custom name value found => ?_,
    TaskKind.name_notMem_ownNames,
    ⟨parameters, records, own, known, resolved, told, fun name member => ?_,
      fun field written free => ?_⟩,
    fun choice switched => ⟨?_, ?_⟩, fun record later described => ?_⟩
  · rw [all, mem_keys_allFields, fields.names]
  · cases (show (session.task task).kind = _ from custom) ▸ fields with
    | custom =>
        have listed : name ∈ raw.keys :=
          SortedMap.mem_keys_iff.mpr ⟨value, found⟩
        rw [all, find?_allFields_own listed, SortedMap.lookup_reverse_entries,
          found]
  · rw [← fields.names] at member
    rw [all, find?_allFields_own member]
  · rw [← fields.names] at free
    rw [all, find?_allFields_standard written free]
    cases field with
    | conditionResult =>
        rw [Task.standardValue, ConditionResult.sorted_toJson,
          ConditionResult.targets_eq, ConditionResult.targets_eq]
    | _ => rfl
  · exact fun listed => ignored .conditionResult (by simp [switched,
      TaskKind.ignoredFields]) choice switched listed
  · exact fun listed => ignored .dependence (by simp [switched,
      TaskKind.ignoredFields]) choice switched listed
  · have outcome' : (taskDefinition task).outcome session = .ok record :=
      congrArg Prod.fst described
    obtain ⟨other, environment, again, -, made⟩ :=
      taskDefinition_ok_iff.mp outcome'
    cases outcome.symm.trans again
    obtain ⟨limited, unlimited⟩ := taskRecord_limits made
    exact ⟨made ▸ rfl, limited, unlimited, TaskDefinition.field?_limit⟩

/-- Raw parameters take the place of local parameters here, and nothing else. -/
theorem taskParameters_exact_raw :
    let raw := SortedMap.ofList [("localParams", .bool true), ("x", .null)]
    let session := Operation.performAll { now := "" }
      [.openGateway {}, .openWorkflow { name := "w", gateway := ⟨0⟩ },
        .build
          { name := "t", kind := .custom "FLINK" raw, workflow := some ⟨0⟩
            options := { cpuQuota := some 3 } }]
    ∃ taken after record later,
      (taskParameters ⟨0⟩).run session = (.ok taken, after) ∧
        (taskDefinition ⟨0⟩).run session = (.ok record, later) ∧
        taken.find? "localParams" = some (.bool true) ∧
        taken.find? "conditionResult" =
          some (.object [("failedNode", .array [.string ""]),
            ("successNode", .array [.string ""])]) ∧
        "rawScript" ∉ taken.keys ∧
        record.cpuQuota = some 3 ∧ record.memoryMax = some (-1) := by
  intro raw session
  have succeeds : ((taskParameters ⟨0⟩).run session).1.isOk ∧
      ((taskDefinition ⟨0⟩).run session).1.isOk := by decide +kernel
  rcases completed : (taskParameters ⟨0⟩).run session with
    ⟨error | taken, after⟩
  · rw [completed] at succeeds
    cases succeeds.1
  rcases described : (taskDefinition ⟨0⟩).run session with
    ⟨error | record, later⟩
  · rw [described] at succeeds
    cases succeeds.2
  have kind : (session.task ⟨0⟩).kind = .custom "FLINK" raw := by
    decide +kernel
  have noBranches : (session.task ⟨0⟩).options.conditionResult = {} := by
    decide +kernel
  obtain ⟨names, wins, -, ⟨_, _, _, -, -, -, -, standard⟩, -, recorded⟩ :=
    taskParameters_exact completed
  obtain ⟨-, limits, -⟩ := recorded record later described
  obtain ⟨quota, memory⟩ := limits (.inr (.inr ⟨_, _, kind⟩))
  refine ⟨taken, after, record, later, rfl, rfl,
    wins _ _ kind _ _ (by decide +kernel), ?_, ?_,
    quota.trans (by decide +kernel), memory.trans (by decide +kernel)⟩
  · have written := standard .conditionResult
      (by rw [kind]; exact List.not_mem_nil) (by rw [kind]; decide +kernel)
    rwa [noBranches] at written
  · rw [names, kind]
    rintro (⟨field, -, same⟩ | own)
    · cases field <;> simp [StandardField.name] at same
    · revert own
      decide +kernel

end Session

end Orchestration
