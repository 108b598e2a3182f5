import Orchestration.Proofs.Json.Words
import Orchestration.Proofs.Parameter.Inference
import Orchestration.Proofs.Session.Resemblance

namespace Orchestration

/-! Where the integers of a session are words of 64 bits, those of its documents
are, too. -/

open Json (isWord)

@[simp] theorem holdsWords_named {α : Type} [Named α] (value : α) :
    (Named.toJson value).holdsWords = true := rfl

def HostValue.holdsWords : HostValue → Bool
  | .typed wrapped => wrapped.value.holdsWords
  | .json value => value.holdsWords
  | _ => true

theorem isWord_of_fitsSigned {value : Int} (fits : FitsSigned value) :
    isWord value = true := by
  obtain ⟨least, greatest⟩ := fits
  have more : greatestSigned ≤ greatestUnsigned := by decide
  simp [isWord, least, greatest.trans more]

theorem HostValue.holdsWords_toRawJson {value : HostValue}
    (words : value.holdsWords = true) : value.toRawJson.holdsWords = true := by
  cases value with
  | int value => exact isWord_of_fitsSigned (fitsSigned_toInt value)
  | float value => cases value <;> rfl
  | typed wrapped => exact words
  | json value => exact words
  | _ => rfl

theorem HostValue.holdsWords_infer {value : HostValue} {typed : TypedValue}
    (words : value.holdsWords = true) (inferred : value.infer = .ok typed) :
    typed.value.holdsWords = true := by
  have converted : ∀ {type : ValueType}, type.convert value = .ok typed →
      typed.value.holdsWords = true := fun converted => by
    obtain ⟨-, blank | form⟩ := ValueType.hasForm_of_convert converted
    · rw [blank]
      rfl
    · generalize typed.value = json at form
      cases form with
      | integer fits => exact isWord_of_fitsSigned fits
      | _ => rfl
  rw [infer.eq_def] at inferred
  split at inferred
  · cases inferred
    exact words
  · split at inferred
    · exact converted inferred
    · cases inferred

def ParameterMap.holdsWords (map : ParameterMap) : Bool :=
  map.entries.all (·.2.holdsWords)

@[simp] theorem Parameter.holdsWords_toJson (parameter : Parameter) :
    parameter.toJson.holdsWords = parameter.value.holdsWords := by
  simp [toJson]

theorem ParameterMap.holdsWords_toParameters {map : ParameterMap}
    {direction : Direction} {parameters : List Parameter}
    (words : map.holdsWords = true)
    (told : map.toParameters direction = .ok parameters) :
    ∀ parameter ∈ parameters, parameter.value.holdsWords = true := by
  intro parameter member
  have all := (Parameter.inferAll_ok_iff.mp told).flip
  obtain ⟨entry, there, typed, inferred, rfl⟩ := exists_of_forall₂ all member
  exact (entry.2).holdsWords_infer (List.all_eq_true.mp words entry there)
    inferred

def TaskKind.holdsWords : TaskKind → Bool
  | .http call =>
      call.parameters.holdsWords && Json.isWord call.connectTimeout &&
        Json.isWord call.socketTimeout
  | .sql statement => Json.isWord statement.displayRows
  | .custom _ parameters => parameters.entries.all (·.2.holdsWords)
  | _ => true

namespace Task

def numbers (task : Task) : List Int :=
  [task.code, task.version, task.options.delayMinutes, task.options.retryTimes,
    task.options.retryInterval, task.options.timeoutMinutes,
    task.options.groupId, task.options.groupPriority,
    task.options.cpuQuota.getD (-1), task.options.memoryMax.getD (-1)] ++
    task.options.conditionResult.success ++ task.options.conditionResult.failed

def holdsWords (task : Task) : Bool :=
  task.numbers.all isWord && task.kind.holdsWords &&
    task.rawParameters.all (·.value.holdsWords) && task.inputs.holdsWords &&
    task.outputs.holdsWords &&
    task.options.dependence.entries.all (·.2.holdsWords) &&
    task.options.waitStartTimeout.entries.all (·.2.holdsWords)

structure HoldsWords (task : Task) : Prop where
  numbers : ∀ number ∈ task.numbers, isWord number = true
  kind : task.kind.holdsWords = true
  raw : ∀ parameter ∈ task.rawParameters, parameter.value.holdsWords = true
  inputs : task.inputs.holdsWords = true
  outputs : task.outputs.holdsWords = true
  dependence : (Json.ofMap task.options.dependence).holdsWords = true
  waitStartTimeout :
    (Json.ofMap task.options.waitStartTimeout).holdsWords = true

theorem HoldsWords.of_all {task : Task} (words : task.holdsWords = true) :
    task.HoldsWords := by
  simp only [holdsWords, Bool.and_eq_true, List.all_eq_true] at words
  obtain ⟨⟨⟨⟨⟨⟨numbers, kind⟩, raw⟩, inputs⟩, outputs⟩, dependence⟩, wait⟩ :=
    words
  exact ⟨numbers, kind, raw, inputs, outputs,
    (Json.holdsWords_object _).trans (List.all_eq_true.mpr dependence),
    (Json.holdsWords_object _).trans (List.all_eq_true.mpr wait)⟩

end Task

def Workflow.holdsWords (workflow : Workflow) : Bool :=
  workflow.tasks.keys.all isWord && workflow.parameters.holdsWords &&
    workflow.relations.keys.all fun ends => isWord ends.pre && isWord ends.post

def Gateway.Server.numbers (server : Gateway.Server) : List Int :=
  server.environments.map (·.2) ++ server.datasources.map (·.2.id) ++
    server.workflows.map (·.2.code)

namespace Session

def holdsWords (session : Session) : Bool :=
  session.gateways.all (·.numbers.all isWord) &&
    session.workflows.all Workflow.holdsWords &&
    session.tasks.all Task.holdsWords

structure HoldsWords (session : Session) : Prop where
  gateway : ∀ id, ∀ number ∈ (session.gateway id).numbers,
    isWord number = true
  workflow : ∀ id, (session.workflow id).holdsWords = true
  task : ∀ id, (session.task id).HoldsWords

theorem getD_all {items : List α} {check : α → Bool} {index : Nat} {default : α}
    (all : items.all check = true) (absent : check default = true) :
    check (items.getD index default) = true := by
  rw [List.getD_eq_getElem?_getD]
  cases found : items[index]? with
  | none => exact absent
  | some item =>
      exact List.all_eq_true.mp all item (List.mem_of_getElem? found)

theorem HoldsWords.of_all {session : Session}
    (words : session.holdsWords = true) : session.HoldsWords := by
  rw [holdsWords, Bool.and_eq_true, Bool.and_eq_true] at words
  obtain ⟨⟨gateways, workflows⟩, tasks⟩ := words
  exact ⟨fun id => List.all_eq_true.mp (getD_all gateways (by decide)),
    fun id => getD_all workflows (by decide),
    fun id => .of_all (getD_all tasks (by decide))⟩

section Answers

variable {session : Session} {gateway : GatewayId}

theorem serve_of_ask_ok {request : Gateway.Request α} {value : α}
    (asked : (Action.ask gateway request).outcome session = .ok value) :
    (((session.gateway gateway).log [request.method]).serve request).1 =
      .ok value := by
  change Except.mapError _ ((session.gateway gateway).answer request).1 = _
    at asked
  cases primed : (session.gateway gateway).primed request.method with
  | some error =>
      rw [Gateway.Server.answer_of_primed primed] at asked
      cases asked
  | none =>
      rw [Gateway.Server.answer_of_unprimed primed] at asked
      generalize Gateway.Server.serve _ _ = reply at asked ⊢
      obtain ⟨outcome, after⟩ := reply
      cases outcome with
      | error error => cases asked
      | ok other => exact congrArg Except.ok (Except.ok.inj asked)

theorem mem_of_lookup {κ : Type} [BEq κ] [LawfulBEq κ] {entries : List (κ × α)}
    {key : κ} {value : α} (found : entries.lookup key = some value) :
    value ∈ entries.map (·.2) := by
  obtain ⟨before, after, split, -⟩ := List.lookup_eq_some_iff.mp found
  rw [split, List.map_append, List.map_cons]
  exact List.mem_append_right _ List.mem_cons_self

theorem found_ok {server : Gateway.Server} {found : Option α} {value : α}
    {missing : Gateway.Error}
    (served : (server.found found missing).1 = .ok value) :
    found = some value := by
  cases found with
  | none => cases served
  | some found => exact congrArg some (Except.ok.inj served)

variable (words : session.HoldsWords)
include words

theorem HoldsWords.environment {name : String} {code : Int}
    (asked : (Action.ask gateway (.environment name)).outcome session =
      .ok code) : isWord code = true :=
  words.gateway gateway code
    (List.mem_append_left _ (List.mem_append_left _
      (mem_of_lookup (found_ok (serve_of_ask_ok asked)))))

theorem HoldsWords.datasource {name : String} {type : Option String}
    {info : DatasourceInfo}
    (asked : (Action.ask gateway (.datasource name type)).outcome session =
      .ok info) : isWord info.id = true := by
  have found := (Option.filter_eq_some_iff.mp
    (found_ok (serve_of_ask_ok asked))).1
  have listed := List.mem_map_of_mem (f := DatasourceInfo.id)
    (mem_of_lookup found)
  rw [List.map_map] at listed
  exact words.gateway gateway info.id
    (List.mem_append_left _ (List.mem_append_right _ listed))

theorem HoldsWords.workflowInfo {user project name : String}
    {info : WorkflowInfo}
    (asked : (Action.ask gateway (.workflowInfo user project name)).outcome
      session = .ok info) : isWord info.code = true := by
  have listed := List.mem_map_of_mem (f := WorkflowInfo.code)
    (mem_of_lookup (found_ok (serve_of_ask_ok asked)))
  rw [List.map_map] at listed
  exact words.gateway gateway info.code (List.mem_append_right _ listed)

end Answers

theorem holdsWords_targets {codes : List Int}
    (words : codes.all isWord = true) :
    (ConditionResult.targets codes).holdsWords = true := by
  rw [ConditionResult.targets]
  split
  · rfl
  · simpa [Json.integers, Function.comp_def] using words

theorem holdsWords_parameters {parameters : List Parameter}
    (words : ∀ parameter ∈ parameters, parameter.value.holdsWords = true) :
    (Json.array (parameters.map Parameter.toJson)).holdsWords = true := by
  simpa using words

theorem localParameters_words {task : Task} {parameters : List Parameter}
    (words : task.HoldsWords)
    (told : task.localParameters = .ok parameters) :
    ∀ parameter ∈ parameters, parameter.value.holdsWords = true := by
  obtain ⟨ins, first, told⟩ := Except.bind_ok told
  obtain ⟨outs, second, told⟩ := Except.bind_ok told
  cases told
  exact List.forall_mem_append.mpr
    ⟨List.forall_mem_append.mpr ⟨words.raw,
      ParameterMap.holdsWords_toParameters words.inputs first⟩,
      ParameterMap.holdsWords_toParameters words.outputs second⟩

theorem standardValue_words {task : Task} {parameters : List Parameter}
    (words : task.HoldsWords)
    (own : ∀ parameter ∈ parameters, parameter.value.holdsWords = true)
    (records : List ResourceRecord) (field : StandardField) :
    (task.standardValue parameters records field).holdsWords = true := by
  cases field with
  | localParams => exact Json.holdsWords_sorted _ (holdsWords_parameters own)
  | resourceList => simp [Task.standardValue, ResourceRecord.toJson]
  | dependence => exact words.dependence
  | waitStartTimeout => exact words.waitStartTimeout
  | conditionResult =>
      have success : task.options.conditionResult.success.all isWord = true :=
        List.all_eq_true.mpr fun code member => words.numbers code
          (List.mem_append_left _ (List.mem_append_right _ member))
      have failed : task.options.conditionResult.failed.all isWord = true :=
        List.all_eq_true.mpr fun code member => words.numbers code
          (List.mem_append_right _ member)
      apply Json.holdsWords_sorted
      simp [ConditionResult.toJson, holdsWords_targets success,
        holdsWords_targets failed]

theorem all_field? (name : String) (value : Option Int) :
    (TaskDefinition.field? name value).all (·.2.holdsWords) =
      value.all isWord := by
  cases value <;> simp [TaskDefinition.field?]

theorem all_workerLimit (task : Task) {limit : Option Int}
    (word : isWord (limit.getD (-1)) = true) :
    (task.workerLimit limit).all isWord = true := by
  rw [Task.workerLimit]
  split
  · exact word
  · rfl

section Written

variable {session : Session} {task : TaskId} (words : session.HoldsWords)
include words

theorem HoldsWords.code (id : TaskId) : isWord (session.task id).code = true :=
  (words.task id).numbers _ List.mem_cons_self

theorem HoldsWords.switchResult (choice : Switch) :
    (choice.result fun id => (session.task id).code).holdsWords = true := by
  have conditional : (Json.array (choice.branches.filterMap
      (Switch.conditional? fun id => (session.task id).code))).holdsWords =
        true := by
    rw [Json.holdsWords_array, List.all_eq_true]
    intro json member
    obtain ⟨branch, -, made⟩ := List.mem_filterMap.mp member
    obtain ⟨condition, -, rfl⟩ := Option.map_eq_some_iff.mp made
    simp [words.code]
  rw [Switch.result]
  split <;> simp only [Json.holdsWords_object, List.all_cons, List.all_nil,
    conditional, Json.holdsWords_ofInt, words.code, Bool.and_true]

theorem HoldsWords.own {kind : TaskKind} {own : List (String × Json)}
    (fields : OwnFields session kind own) (holds : kind.holdsWords = true) :
    ∀ field ∈ own, field.2.holdsWords = true := by
  rw [← List.all_eq_true]
  cases fields with
  | shell body => rfl
  | python body => rfl
  | http told =>
      simp only [TaskKind.holdsWords, Bool.and_eq_true] at holds
      obtain ⟨⟨parameters, connect⟩, socket⟩ := holds
      obtain ⟨listed, some, told⟩ := Except.bind_ok told
      cases told
      have sorted := Json.holdsWords_sorted _ (holdsWords_parameters
        (ParameterMap.holdsWords_toParameters parameters some))
      simp [sorted, connect, socket]
  | sql asked =>
      obtain ⟨gateway, asked⟩ := asked
      have rows : isWord _ = true := holds
      simp [Statement.taskParameters, words.datasource asked, rows,
        Json.strings]
  | subWorkflow asked =>
      obtain ⟨gateway, user, project, asked⟩ := asked
      simp [words.workflowInfo asked]
  | switch choice => simp [words.switchResult choice]
  | custom type parameters => exact holds

theorem HoldsWords.taskParameters {taken : SortedMap String Json}
    (completed : (taskParameters task).outcome session = .ok taken) :
    (Json.ofMap taken).holdsWords = true := by
  obtain ⟨parameters, records, own, known, -, added, rfl⟩ :=
    taskParameters_ok completed
  have locals := localParameters_words (words.task task) known
  rw [Json.ofMap, Json.holdsWords_object, List.all_eq_true]
  intro entry member
  rcases List.mem_append.mp (SortedMap.mem_of_mem_ofList member) with
    standard | added
  · obtain ⟨field, -, rfl⟩ := List.mem_map.mp standard
    exact standardValue_words (words.task task) locals records field
  · exact words.own (kindFields_ok ‹_›) (words.task task).kind entry added

theorem HoldsWords.environmentCode {code : Option Int}
    (completed : (environmentCode task).outcome session = .ok code) :
    code.all isWord = true := by
  rw [Session.environmentCode, Action.outcome_read] at completed
  dsimp only at completed
  split at completed
  · obtain ⟨code, asked, rfl⟩ := ask_pure_ok rfl completed
    exact words.environment asked
  · cases completed
    rfl

theorem HoldsWords.taskDefinition {record : TaskDefinition}
    (completed : (taskDefinition task).outcome session = .ok record) :
    record.toJson.holdsWords = true := by
  obtain ⟨parameters, environment, taken, found, rfl⟩ :=
    taskDefinition_ok_iff.mp completed
  have first := words.taskParameters taken
  have second := words.environmentCode found
  have numbers := (words.task task).numbers
  simp only [Task.numbers, List.forall_mem_append, List.forall_mem_cons]
    at numbers
  obtain ⟨⟨⟨code, version, delay, times, interval, timeout, group, priority,
    cpu, memory, -⟩, -⟩, -⟩ := numbers
  rw [TaskDefinition.toJson, Json.holdsWords_object, List.all_append,
    List.all_append, all_field?, all_field?, Bool.and_eq_true,
    Bool.and_eq_true]
  refine ⟨⟨?_, all_workerLimit _ cpu⟩, all_workerLimit _ memory⟩
  simp [taskRecord, first, second, code, version, delay, times, interval,
    timeout, group, priority]

theorem HoldsWords.definitionList {id : WorkflowId} {definitions : Json}
    (told : (definitionList id).outcome session = .ok definitions) :
    definitions.holdsWords = true := by
  rw [outcome_definitionList] at told
  split at told
  · cases told
    rfl
  · obtain ⟨records, all, told⟩ := Except.bind_ok told
    cases told
    rw [Json.holdsWords_array, List.all_eq_true]
    intro document member
    obtain ⟨record, listed, rfl⟩ := List.mem_map.mp member
    obtain ⟨task, -, completed⟩ :=
      exists_of_forall₂ (Except.mapM_ok_iff.mp all).flip listed
    exact Json.holdsWords_sorted _ (words.taskDefinition completed)

end Written

end Session

namespace Workflow

variable {workflow : Workflow} (words : workflow.holdsWords = true)
include words

theorem holdsWords_parameterList :
    (Session.parameterList workflow).holdsWords = true := by
  simp only [holdsWords, Bool.and_eq_true] at words
  refine Session.holdsWords_parameters fun parameter member => ?_
  obtain ⟨entry, listed, rfl⟩ := List.mem_map.mp member
  exact (entry.2).holdsWords_toRawJson
    (List.all_eq_true.mp words.1.2 entry listed)

theorem holdsWords_relationList :
    workflow.withRoots.relationList.holdsWords = true := by
  simp only [holdsWords, Bool.and_eq_true, List.all_eq_true] at words
  obtain ⟨⟨codes, -⟩, relations⟩ := words
  have rooted : ∀ ends ∈ workflow.withRoots.relations.keys,
      isWord ends.pre = true ∧ isWord ends.post = true := by
    intro ends member
    by_cases root : ends.pre = rootCode
    · obtain ⟨pre, post⟩ := ends
      subst root
      refine ⟨rfl, ?_⟩
      rcases (RelationSet.root_mem_withRoots_iff.mp member).2 with
        listed | there
      · exact codes post listed
      · exact (relations _ there).2
    · exact relations ends ((RelationSet.mem_withRoots_of_ne root).mp member)
  rw [relationList]
  split
  · rfl
  · rw [Json.holdsWords_array, List.all_eq_true]
    intro json member
    obtain ⟨relation, listed, rfl⟩ := List.mem_map.mp member
    have there := List.mem_map_of_mem (f := Relation.endpoints) listed
    rw [RelationSet.endpoints_toList] at there
    obtain ⟨pre, post⟩ := rooted _ there
    have constants : isWord 0 = true ∧ isWord 1 = true := by decide
    simp only [Relation.toJson, Json.holdsWords_object, List.all_cons,
      List.all_nil, Json.holdsWords_string, Json.holdsWords_ofInt,
      constants.1, constants.2, Bool.and_true, Bool.true_and, Bool.and_eq_true]
    exact ⟨pre, post⟩

end Workflow

end Orchestration
