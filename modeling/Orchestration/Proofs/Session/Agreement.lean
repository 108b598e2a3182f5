import Orchestration.Proofs.Json.Document
import Orchestration.Proofs.Session.Words

namespace Orchestration

/-! A workflow is described for the server and for people. Both descriptions say
the same, and asking for them changes neither. -/

namespace Workflow

def record (workflow : Workflow) (now : String) (definitions relations : Json) :
    WorkflowDefinition where
  user := workflow.user
  project := workflow.project
  name := workflow.name
  description := workflow.description.getD ""
  globalParams := (Session.parameterList workflow).compact
  warningType := workflow.warningType.name
  warningGroupId := workflow.warningGroupId
  executionType := workflow.executionType.name
  timeout := workflow.timeout
  workerGroup := workflow.workerGroup
  releaseState := workflow.releaseState.code
  taskRelationJson := relations.compact
  taskDefinitionJson := definitions.compact
  scheduleJson := (workflow.scheduleDescriptor now).map Json.compact
  onlineSchedule := workflow.onlineSchedule
  otherParamsJson := none

def summary (workflow : Workflow) (definitions relations : Json) :
    WorkflowSummary where
  name := workflow.name
  description := workflow.description
  project := workflow.project
  workerGroup := workflow.workerGroup
  warningType := workflow.warningType
  warningGroupId := workflow.warningGroupId
  executionType := workflow.executionType
  timeout := workflow.timeout
  releaseState := workflow.releaseState
  parameters := Session.parameterList workflow
  definitions := definitions
  relations := relations
  resources := workflow.resources.map (·.name)

def rootedList (workflow : Workflow) : Json :=
  workflow.withRoots.relationList.sorted

end Workflow

namespace Session

variable {session later : Session} {id : WorkflowId}

theorem outcome_relationList (session : Session) (id : WorkflowId) :
    (relationList id).outcome session =
      .ok (session.workflow id).rootedList := by
  rw [Action.outcome, relationList_run, Workflow.rootedList]
  split
  next none =>
    have same : (session.workflow id).withRoots.tasks.isEmpty = true := none
    rw [Workflow.relationList, if_pos same]
    rfl
  next some =>
    have present : session.hasWorkflow id := by
      by_contra absent
      rw [Bool.not_eq_true] at absent
      rw [workflow_absent absent] at some
      exact some rfl
    rw [synthesizeRoots, workflow_updateWorkflow_self present]

theorem now_of_looked {after : Session}
    (looked : Relation.ReflTransGen Looked session after) :
    after.now = session.now := by
  induction looked with
  | refl => rfl
  | tail _ step induction =>
      rw [← induction]
      cases step with
      | queried queried =>
          obtain ⟨_, _, -, rfl⟩ := queried
          rfl
      | rooted => rfl

/-- What is told after both lists were made can be told from the session that
they were made in. -/
theorem outcome_lists (told : Session → Json → Json → α)
    (same : ∀ {after : Session}, Relation.ReflTransGen Looked session after →
      told after = told session) :
    (definitionList id >>= fun definitions =>
        relationList id >>= fun relations =>
          get >>= fun after =>
            (pure (told after definitions relations) : Action α)).outcome
        session =
      ((definitionList id).outcome session).map fun definitions =>
        told session definitions (session.workflow id).rootedList := by
  -- Each list leaves a session that differs in logs and roots alone, in which
  -- the rest comes out as it would have before.
  have listed := definitionList_looked id session
  rw [Action.outcome, Action.outcome, Action.run_bind]
  generalize (definitionList id).run session = reached at listed ⊢
  obtain ⟨outcome, middle⟩ := reached
  cases outcome with
  | error error => rfl
  | ok definitions =>
      have related := relationList_looked id middle
      have relations := outcome_relationList middle id
      have rooted : (middle.workflow id).rootedList =
          (session.workflow id).rootedList :=
        congrArg (·.relationList.sorted)
          ((Resembles.of_looked listed).rooted id).symm
      rw [rooted, Action.outcome] at relations
      dsimp only
      rw [Action.run_bind]
      generalize (relationList id).run middle = ran at related relations ⊢
      obtain ⟨outcome, after⟩ := ran
      cases relations
      exact congrArg Except.ok
        (congrFun₂ (same (listed.trans related)) definitions _)

theorem outcome_definition (session : Session) (id : WorkflowId) :
    (definition id).outcome session =
      ((definitionList id).outcome session).map fun definitions =>
        (session.workflow id).record session.now definitions
          (session.workflow id).rootedList := by
  refine outcome_lists
    (fun session => (session.workflow id).record session.now) fun looked => ?_
  rw [now_of_looked looked]
  exact ((Resembles.of_looked looked).field (Workflow.record · session.now)
    (fun _ => rfl) id).symm

theorem outcome_summary (session : Session) (id : WorkflowId) :
    (summary id).outcome session =
      ((definitionList id).outcome session).map fun definitions =>
        (session.workflow id).summary definitions
          (session.workflow id).rootedList :=
  outcome_lists (fun session => (session.workflow id).summary) fun looked =>
    ((Resembles.of_looked looked).field Workflow.summary (fun _ => rfl) id).symm

end Session

def WorkflowDefinition.atMoment (record : WorkflowDefinition)
    (workflow : Workflow) (now : String) : WorkflowDefinition :=
  { record with
    scheduleJson := (workflow.scheduleDescriptor now).map Json.compact }

/-- The workflow does not begin when it is submitted. -/
def Workflow.isTimeless (workflow : Workflow) : Bool :=
  workflow.schedule.all (·.start.isSome)

theorem Workflow.scheduleDescriptor_timeless {workflow : Workflow}
    (timeless : workflow.isTimeless = true) (now later : String) :
    workflow.scheduleDescriptor now = workflow.scheduleDescriptor later := by
  rw [scheduleDescriptor, scheduleDescriptor]
  cases given : workflow.schedule with
  | none => rfl
  | some schedule =>
      rw [isTimeless, given, Option.all_some, Option.isSome_iff_exists]
        at timeless
      obtain ⟨start, begins⟩ := timeless
      simp [Schedule.descriptor, begins]

theorem Workflow.record_atMoment {workflow : Workflow} {now later : String}
    (same : workflow.scheduleDescriptor later = workflow.scheduleDescriptor now)
    (definitions relations : Json) :
    (workflow.record now definitions relations).atMoment workflow later =
      workflow.record now definitions relations := by
  rw [WorkflowDefinition.atMoment, same]
  rfl

def Operation.describes : Operation → Bool
  | definition _ | summary _ | clock _ => true
  | _ => false

namespace Session

theorem Resembles.of_describing (calls : List Operation)
    (only : ∀ call ∈ calls, call.describes = true) (session : Session) :
    Resembles session (Operation.performAll session calls) := by
  induction calls generalizing session with
  | nil => exact .refl session
  | cons call rest induction =>
      obtain ⟨first, others⟩ := List.forall_mem_cons.mp only
      refine .trans ?_ (induction others (call.perform session))
      cases call with
      | definition id => exact .of_looked (definition_looked id session)
      | summary id => exact .of_looked (summary_looked id session)
      | clock now => exact .withNow session now
      | _ => cases first

theorem Resembles.summary (same : Resembles session later) (id : WorkflowId) :
    (summary id).outcome later = (Session.summary id).outcome session := by
  rw [outcome_summary, outcome_summary, same.definitionList,
    Workflow.rootedList, Workflow.rootedList, same.rooted,
    same.field Workflow.summary (fun _ => rfl)]

theorem Resembles.definition (same : Resembles session later)
    (id : WorkflowId) :
    (definition id).outcome later =
      ((Session.definition id).outcome session).map
        (·.atMoment (session.workflow id) later.now) := by
  rw [outcome_definition, outcome_definition, same.definitionList,
    Workflow.rootedList, Workflow.rootedList, same.rooted,
    ← same.field Workflow.record (fun _ => rfl)]
  cases (Session.definitionList id).outcome later <;> rfl

end Session

namespace WorkflowSummary

/-- Fields with one value in both descriptions. -/
def sharedFields : List String :=
  ["name", "project", "workerGroup", "warningType", "warningGroupId",
    "executionType", "timeout", "releaseState"]

/-- Fields that the record holds as texts, and their names there. -/
def embeddedFields : List (String × String) :=
  [("taskDefinitionJson", "taskDefinitionJson"),
    ("taskRelationJson", "taskRelationJson"), ("param", "globalParams")]

/-- What is told to people and what is told to the server. -/
structure Agrees (summary : WorkflowSummary) (record : WorkflowDefinition) :
    Prop where
  shared : ∀ name ∈ sharedFields, ∃ value,
    summary.toJson.field? name = some value ∧
      record.toJson.field? name = some value
  description : ∃ text,
    (summary.toJson.field? "description").getD (.string "") = .string text ∧
      record.toJson.field? "description" = some (.string text)
  ordered : summary.definitions.sorted = summary.definitions ∧
    summary.relations.sorted = summary.relations

/-- The server gets as texts what people get as values. -/
def EmbeddedIn (summary : WorkflowSummary) (record : WorkflowDefinition) :
    Prop :=
  ∀ names ∈ embeddedFields, ∃ value text,
    summary.toJson.field? names.1 = some value ∧
      record.toJson.field? names.2 = some (.string text) ∧
      Json.IsTextOf text value

end WorkflowSummary

namespace Session

variable {session later : Session} {id : WorkflowId}

theorem definitionList_items {definitions : Json}
    (told : (definitionList id).outcome session = .ok definitions) :
    (∃ items, definitions = .array items) ∧
      definitions.sorted = definitions := by
  rw [outcome_definitionList] at told
  split at told
  · cases told
    exact ⟨⟨_, rfl⟩, rfl⟩
  · obtain ⟨records, -, told⟩ := Except.bind_ok told
    cases told
    refine ⟨⟨_, rfl⟩, ?_⟩
    rw [Json.sorted, Json.sortedItems_eq, List.map_map]
    exact congrArg Json.array
      (List.map_congr_left fun record _ => Json.sorted_sorted _)

theorem rootedList_items (workflow : Workflow) :
    ∃ items, workflow.rootedList = .array items := by
  rw [Workflow.rootedList, Workflow.relationList]
  split <;> exact ⟨_, rfl⟩

theorem field?_items {fields : List (String × Json)} {name : String}
    {value : Json} (found : fields.lookup name = some value)
    (list : ∃ items, value = .array items) :
    (Json.object fields).field? name = some value := by
  obtain ⟨items, rfl⟩ := list
  rw [Json.field?, found]

theorem field?_ofOption {fields : List (String × Json)} {name : String}
    {text : Option String}
    (found : fields.lookup name = some (.ofOption .string text)) :
    ((Json.object fields).field? name).getD (.string "") =
      .string (text.getD "") := by
  rw [Json.field?, found]
  cases text <;> rfl

variable {workflow : Workflow} {definitions : Json}

theorem agrees_of_sorted (ordered : definitions.sorted = definitions)
    (now : String) :
    (workflow.summary definitions workflow.rootedList).Agrees
      (workflow.record now definitions workflow.rootedList) where
  shared := by
    simp only [WorkflowSummary.sharedFields, List.forall_mem_cons]
    exact ⟨⟨_, rfl, rfl⟩, ⟨_, rfl, rfl⟩, ⟨_, rfl, rfl⟩, ⟨_, rfl, rfl⟩,
      ⟨_, rfl, rfl⟩, ⟨_, rfl, rfl⟩, ⟨_, rfl, rfl⟩, ⟨_, rfl, rfl⟩, nofun⟩
  description := ⟨_, field?_ofOption rfl, rfl⟩
  ordered := ⟨ordered, Json.sorted_sorted _⟩

theorem embedded_of_words (list : ∃ items, definitions = .array items)
    (listed : definitions.holdsWords = true)
    (words : workflow.holdsWords = true)
    (now : String) :
    (workflow.summary definitions workflow.rootedList).EmbeddedIn
      (workflow.record now definitions workflow.rootedList) := by
  have related : workflow.rootedList.holdsWords = true :=
    Json.holdsWords_sorted _ (workflow.holdsWords_relationList words)
  have parameters := workflow.holdsWords_parameterList words
  simp only [WorkflowSummary.EmbeddedIn, WorkflowSummary.embeddedFields,
    List.forall_mem_cons]
  exact ⟨⟨_, _, field?_items rfl list, rfl, Json.isTextOf_compact listed⟩,
    ⟨_, _, field?_items rfl (rootedList_items workflow), rfl,
      Json.isTextOf_compact related⟩,
    ⟨_, _, rfl, rfl, Json.isTextOf_compact parameters⟩, nofun⟩

/-- For the server and for people the same is told about a workflow, and if
something is wrong, both are told the same error. What is told does not depend
on how often and in which order workflows were described before; only for a
schedule without a beginning the moment is written. As long as integers fit in
64 bits, the texts that the server gets are decoded by `Json.ofText?`, which
reads numbers as the nearest doubles, to the values that people get. -/
theorem agreement (session : Session) (id : WorkflowId)
    {calls : List Operation} (only : ∀ call ∈ calls, call.describes = true) :
    let later := Operation.performAll session calls
    (summary id).outcome later = (summary id).outcome session ∧
      (definition id).outcome later =
        ((definition id).outcome session).map
          (·.atMoment (session.workflow id) later.now) ∧
      ((session.workflow id).isTimeless = true ∨ later.now = session.now →
        (definition id).outcome later = (definition id).outcome session) ∧
      (∀ error, (definition id).outcome later = .error error ↔
        (summary id).outcome later = .error error) ∧
      ∀ record summary, (definition id).outcome later = .ok record →
        (Session.summary id).outcome later = .ok summary →
        summary.Agrees record ∧
          (session.HoldsWords → summary.EmbeddedIn record) := by
  intro later
  have same := Resembles.of_describing calls only session
  refine ⟨same.summary id, same.definition id, ?_, ?_, ?_⟩
  · intro unmoved
    have moment : (session.workflow id).scheduleDescriptor later.now =
        (session.workflow id).scheduleDescriptor session.now := by
      rcases unmoved with timeless | same
      · exact Workflow.scheduleDescriptor_timeless timeless _ _
      · rw [same]
    rw [same.definition id, outcome_definition]
    cases (definitionList id).outcome session with
    | error error => rfl
    | ok definitions =>
        exact congrArg Except.ok (Workflow.record_atMoment moment _ _)
  · intro error
    rw [outcome_definition, outcome_summary]
    cases (definitionList id).outcome later <;> simp [Except.map]
  · intro record summary written told
    rw [same.definition id, outcome_definition] at written
    rw [same.summary id, outcome_summary] at told
    cases listed : (definitionList id).outcome session with
    | error error =>
        rw [listed] at told
        cases told
    | ok definitions =>
        rw [listed] at written told
        cases written
        cases told
        obtain ⟨list, ordered⟩ := definitionList_items listed
        exact ⟨agrees_of_sorted ordered later.now, fun words =>
          embedded_of_words list (words.definitionList listed)
            (words.workflow id) later.now⟩

/-- Between the first description and the last one the clock went on. -/
theorem agreement_scheduled :
    let ratio : FiniteDouble := ⟨false, 7205759403792794, -56, by decide⟩
    let session := Operation.performAll { now := "2030-01-01 00:00:00" }
      [.openGateway {},
        .openWorkflow {
          name := "nightly"
          gateway := ⟨0⟩
          schedule := some "0 0 0 * * ? *"
          parameters := .ofList
            [("ratio", .float (.finite ratio)), ("title", .text "\"a\"\n")] },
        .build {
          name := "load"
          kind := .custom "FLINK" (.ofList
            [("jars", .array [.ofInt 7, .object [("main", .null)]])])
          workflow := some ⟨0⟩ },
        .build { name := "check", kind := .shell "", workflow := some ⟨0⟩ },
        .precedes ⟨0⟩ [⟨1⟩]]
    let calls := [Operation.summary ⟨0⟩, .clock "2031-01-01 00:00:00",
      .definition ⟨0⟩]
    let later := Operation.performAll session calls
    (∀ call ∈ calls, call.describes = true) ∧
      ∃ record summary,
        (definition ⟨0⟩).outcome later = .ok record ∧
          (Session.summary ⟨0⟩).outcome session = .ok summary ∧
          summary.Agrees record ∧ summary.EmbeddedIn record := by
  intro ratio session calls later
  have only : ∀ call ∈ calls, call.describes = true := by
    decide
  have words : session.HoldsWords := .of_all (by decide +kernel)
  have succeeds : ((definition ⟨0⟩).outcome later).isOk = true ∧
      ((Session.summary ⟨0⟩).outcome later).isOk = true := by decide +kernel
  obtain ⟨same, -, -, -, agree⟩ := agreement session ⟨0⟩ only
  cases written : (definition ⟨0⟩).outcome later with
  | error error =>
      rw [written] at succeeds
      cases succeeds.1
  | ok record =>
      cases told : (Session.summary ⟨0⟩).outcome later with
      | error error =>
          rw [told] at succeeds
          cases succeeds.2
      | ok summary =>
          obtain ⟨agrees, embedded⟩ := agree record summary written told
          exact ⟨only, record, summary, rfl, same ▸ told, agrees,
            embedded words⟩

end Session

end Orchestration
