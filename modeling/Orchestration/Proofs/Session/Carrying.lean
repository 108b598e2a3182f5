import Orchestration.Proofs.Parameter.Raw
import Orchestration.Proofs.Session.Frame
import Orchestration.Proofs.Session.Publishing

namespace Orchestration

/-! How the global parameters of workflows come to the records that are
submitted. A workflow has the values that were given to it last, and the records
tell them raw. -/

namespace Workflow

theorem find?_globalParameters (workflow : Workflow) (name : String) :
    workflow.globalParameters.find? (·.name == name) =
      (workflow.parameters.find? name).map fun value =>
        ⟨name, .input, .varchar, value.toRawJson⟩ := by
  rw [globalParameters, ParameterMap.find?]
  induction workflow.parameters.entries with
  | nil => rfl
  | cons entry rest induction =>
      obtain ⟨key, value⟩ := entry
      rw [List.map_cons, List.find?_cons, ParameterMap.lookup_cons]
      by_cases same : key = name
      · simp [same]
      · simp only [beq_false_of_ne same, induction, if_neg same]

end Workflow

namespace Session

variable {session before middle after : Session}

/-- The workflows have the global parameters that they had. -/
def Shares (before after : Session) : Prop :=
  ∀ id, (after.workflow id).parameters = (before.workflow id).parameters

theorem Shares.updateWorkflow {update : Workflow → Workflow}
    (kept : ∀ workflow, (update workflow).parameters = workflow.parameters)
    (id : WorkflowId) : Shares session (session.updateWorkflow id update) :=
  workflow_updateWorkflow_kept Workflow.parameters kept id

theorem Shares.addTask (session : Session) (id : WorkflowId) (task : TaskId) :
    Shares session (session.addTask id task).2 := by
  rcases addTask_cases session id task with same | ⟨free, -⟩
  · rw [same]
    exact fun _ => rfl
  · intro other
    rw [addTask_of_free free, workflow_updateTask,
      workflow_updateWorkflow_kept Workflow.parameters,
      workflow_withdraw_kept Workflow.parameters fun _ _ => rfl]
    exact fun _ => rfl

theorem frame_shares : Frame Shares where
  same workflows _ id := by rw [workflow, workflows, workflow]
  trans first second id := (second id).trans (first id)
  rooted _ id := by
    apply Shares.updateWorkflow
    exact fun _ => rfl
  coded _ id _ := by
    apply Shares.updateWorkflow
    exact fun _ => rfl
  link := workflow_link_kept Workflow.parameters fun _ _ => rfl
  newTask _ _ _ := rfl
  addTask := .addTask

end Session

namespace Operation

/-- The value that an operation gives to a workflow under a name. -/
def gives? (session : Session) (id : WorkflowId) (name : String) :
    Operation → Option HostValue
  | setParameter target key value =>
      if target = id ∧ key = name then some value else none
  | openWorkflow draft =>
      match draft.build with
      | .ok workflow =>
          if (session.addWorkflow workflow).1 = id then
            draft.parameters.find? name
          else none
      | .error _ => none
  | _ => none

def isGift : Operation → Bool
  | setParameter _ _ _ | openWorkflow _ => true
  | _ => false

open Session (Shares)

variable {session : Session} {id : WorkflowId} {name : String}
  {operation : Operation}

theorem gives?_of_not_isGift (silent : operation.isGift = false) :
    operation.gives? session id name = none := by
  cases operation <;> first | rfl | cases silent

theorem shares_perform (session : Session)
    (silent : operation.isGift = false) :
    Shares session (operation.perform session) := by
  cases set : operation.isSetting with
  | false => exact Session.frame_shares.perform session set
  | true =>
      cases operation with
      | setParameter | openWorkflow => cases silent
      | hold id | release id =>
          apply Shares.updateWorkflow
          exact fun _ => rfl
      | addInput | addOutput => exact fun _ => rfl
      | _ => cases set

theorem find?_perform (consistent : session.Consistent)
    (possible : operation.isPossible session = true) :
    ((operation.perform session).workflow id).parameters.find? name =
      (operation.gives? session id name).or
        ((session.workflow id).parameters.find? name) := by
  cases silent : operation.isGift with
  | false =>
      rw [shares_perform session silent, gives?_of_not_isGift silent,
        Option.none_or]
  | true =>
      cases operation with
      | setParameter target key value =>
          rw [perform, gives?]
          by_cases same : target = id
          · subst same
            rw [Session.workflow_updateWorkflow_self
              (consistent.present target possible), Workflow.setParameter,
              ParameterMap.find?_insert]
            by_cases named : key = name
            · simp [named]
            · simp [named]
          · rw [Session.workflow_updateWorkflow_other (Ne.symm same)]
            simp [same]
      | openWorkflow draft =>
          rw [perform, gives?]
          cases built : draft.build with
          | error error => rfl
          | ok workflow =>
              by_cases new : (session.addWorkflow workflow).1 = id
              · subst new
                obtain ⟨-, -, -, parameters⟩ := WorkflowDraft.build_ok built
                have absent := Session.workflow_absent
                  (session.hasWorkflow_addWorkflow_fst workflow)
                simp only [if_pos, Session.workflow_addWorkflow_self, absent,
                  parameters]
                exact Option.or_none.symm
              · simp only [if_neg new, Option.none_or,
                  Session.workflow_addWorkflow_other (Ne.symm new)]
      | _ => cases silent

end Operation

def Run.given (id : WorkflowId) (name : String) :
    Run session → Option HostValue
  | start _ => none
  | @step before run operation _ =>
      (operation.gives? before id name).or (run.given id name)

theorem Run.find?_parameters (run : Run session) (id : WorkflowId)
    (name : String) :
    (session.workflow id).parameters.find? name = run.given id name := by
  induction run with
  | start now => rfl
  | step run operation possible induction =>
      rw [Operation.find?_perform run.consistent possible, induction]
      rfl

def WorkflowDefinition.Carries (record : WorkflowDefinition) (name : String)
    (value : Json) : Prop :=
  ∃ parameters : List Parameter,
    record.globalParams =
        (Json.array (parameters.map Parameter.toJson)).compact ∧
      parameters.find? (·.name == name) = some ⟨name, .input, .varchar, value⟩

namespace Session

variable {session reached after : Session} {id : WorkflowId}

theorem globalParams_of_definition {record : WorkflowDefinition}
    (completed : (definition id).run session = (.ok record, after)) :
    record.globalParams = (parameterList (session.workflow id)).compact := by
  have shares := frame_shares.inner.looks (definition_looked id) session id
  rw [completed] at shares
  obtain ⟨_, _, _, -, -, -, -, told, -⟩ := definition_parts completed
  rw [told, parameterList, parameterList, Workflow.globalParameters, shares,
    ← Workflow.globalParameters]

theorem Submits.globalParams {record : WorkflowDefinition}
    {documents : List Json} (submits : session.Submits id record documents) :
    record.globalParams = (parameterList (session.workflow id)).compact := by
  obtain ⟨reached, _, ran, documented⟩ := submits
  have same := sameObjects_of_run (prepare_served _ id) ran
  rw [← same.workflow]
  exact globalParams_of_definition (Prod.ext documented.completed rfl)

theorem exists_submitted (present : session.hasWorkflow id)
    (hosted : session.hasGateway (session.workflow id).gateway) {code : Int}
    (completed : (submit id).run session = (.ok code, after)) :
    ∃ record : WorkflowDefinition,
      record.globalParams = (parameterList (session.workflow id)).compact ∧
        (after.gateway (session.workflow id).gateway).submissions =
          (session.gateway (session.workflow id).gateway).submissions ++
            [record] := by
  rcases submit_cases present hosted with
    ⟨done, rest, error, stopped, ran, -⟩ | ⟨_, reached, ran, -, submitted⟩
  · rw [ran] at completed
    cases completed
  · rw [ran] at completed
    cases completed
    obtain ⟨first, -, -, appended⟩ := submitted.submission
    have published := submissions_submit session id
      (session.workflow id).gateway
    rw [ran] at published
    rcases published with same | ⟨-, record, documents, submits, published⟩
    · rw [appended] at same
      cases List.append_right_eq_self.mp same
    · exact ⟨record, submits.globalParams, published⟩

/-- The workflow has a parameter with this value, and all its records tell it
so: those that describe it, and those that are submitted. -/
structure Carries (session : Session) (id : WorkflowId) (name : String)
    (value : Json) : Prop where
  listed : (session.workflow id).globalParameters.find? (·.name == name) =
    some ⟨name, .input, .varchar, value⟩
  described : ∀ record after,
    (definition id).run session = (.ok record, after) →
    record.Carries name value
  published : ∀ operation : Operation, operation.submitted? = some id →
    ∀ gateway, ((operation.perform session).gateway gateway).submissions =
        (session.gateway gateway).submissions ∨
      ∃ record : WorkflowDefinition, record.Carries name value ∧
        ((operation.perform session).gateway gateway).submissions =
          (session.gateway gateway).submissions ++ [record]
  submitted : session.hasGateway (session.workflow id).gateway →
    ∀ code after, (submit id).run session = (.ok code, after) →
    ∃ record : WorkflowDefinition, record.Carries name value ∧
      (after.gateway (session.workflow id).gateway).submissions =
        (session.gateway (session.workflow id).gateway).submissions ++ [record]

theorem Carries.eq {name : String} {value other : Json}
    (first : session.Carries id name value)
    (second : session.Carries id name other) : value = other := by
  have same := first.listed.symm.trans second.listed
  injection same with same
  exact congrArg Parameter.value same

end Session

theorem Operation.isOutside_of_submitted? {operation : Operation}
    {id : WorkflowId} (submits : operation.submitted? = some id) :
    operation.isOutside = false := by
  cases operation <;> first | rfl | cases submits

namespace Run

variable {session : Session} {id : WorkflowId} {name : String}

theorem hasWorkflow_of_given (run : Run session) {value : HostValue}
    (given : run.given id name = some value) : session.hasWorkflow id := by
  rw [← run.find?_parameters] at given
  cases present : session.hasWorkflow id with
  | true => rfl
  | false =>
      rw [Session.workflow_absent present] at given
      cases given

theorem carries (run : Run session) {value : HostValue}
    (given : run.given id name = some value) :
    session.Carries id name value.toRawJson := by
  have present := run.hasWorkflow_of_given given
  rw [← run.find?_parameters] at given
  have listed : (session.workflow id).globalParameters.find?
      (·.name == name) = some ⟨name, .input, .varchar, value.toRawJson⟩ := by
    rw [Workflow.find?_globalParameters, given]
    rfl
  have carried : ∀ record : WorkflowDefinition,
      record.globalParams =
        (Session.parameterList (session.workflow id)).compact →
      record.Carries name value.toRawJson :=
    fun record told => ⟨_, told, listed⟩
  refine ⟨listed, fun record after completed => ?_,
    fun operation submits gateway => ?_,
    fun hosted code after completed => ?_⟩
  · exact carried record (Session.globalParams_of_definition completed)
  · refine (operation.submissions_perform session
      (Operation.isOutside_of_submitted? submits) gateway).imp_right ?_
    rintro ⟨other, same, -, record, documents, submitted, published⟩
    cases submits.symm.trans same
    exact ⟨record, carried record submitted.globalParams, published⟩
  · obtain ⟨record, told, published⟩ :=
      Session.exists_submitted present hosted completed
    exact ⟨record, carried record told, published⟩

/-- Whatever comes in as JSON goes out as it came in, unless it is a wide
integer; those become doubles nearby. So a workflow that was given JSON last
under a name has and tells this very JSON, unless it is a wide integer. -/
theorem carriage (run : Run session) (id : WorkflowId) (name : String)
    (json : Json) :
    ((HostValue.ofJson json).toRawJson = json ↔ ¬ json.IsWide) ∧
      (∀ value, json = .ofInt value → greatestSigned < value →
        value ≤ greatestUnsigned →
        ∃ real : FiniteDouble,
          (HostValue.ofJson json).toRawJson = .number (.real real) ∧
            |real.truncate - value| ≤ 2 ^ 10) ∧
      (run.given id name = some (.ofJson json) →
        session.Carries id name (HostValue.ofJson json).toRawJson ∧
          (session.Carries id name json ↔ ¬ json.IsWide)) := by
  refine ⟨HostValue.toRawJson_ofJson_iff, ?_, fun given => ?_⟩
  · rintro value rfl low high
    exact HostValue.toRawJson_ofInt_near low high
  · have carried := run.carries given
    refine ⟨carried, fun carries => ?_, fun narrow => ?_⟩
    · rw [← HostValue.toRawJson_ofJson_iff]
      exact carried.eq carries
    · rwa [HostValue.toRawJson_ofJson narrow] at carried

/-- In a list, the greatest of the unsigned words stays an integer, and by
itself it does not. -/
theorem carriage_nested :
    let items : Json := .array [.ofInt greatestUnsigned]
    let operations : List Operation := [.openGateway {},
      .openWorkflow { name := "w", gateway := ⟨0⟩ },
      .setParameter ⟨0⟩ "p" .null, .setParameter ⟨0⟩ "p" (.ofJson items)]
    let session := Operation.performAll { now := "" } operations
    (∃ real : FiniteDouble,
      (HostValue.ofJson (.ofInt greatestUnsigned)).toRawJson =
        .number (.real real)) ∧
      session.Carries ⟨0⟩ "p" items ∧
      ∃ record : WorkflowDefinition, record.Carries "p" items ∧
        ((Operation.perform session (.submit ⟨0⟩)).gateway ⟨0⟩).submissions =
          [record] := by
  intro items operations session
  let run : Run session := (Run.start "").extend operations (by decide +kernel)
  obtain ⟨real, rounded, -⟩ :=
    (carriage run ⟨0⟩ "p" (.ofInt greatestUnsigned)).2.1 greatestUnsigned rfl
      (by decide) le_rfl
  obtain ⟨-, -, carries⟩ := carriage run ⟨0⟩ "p" items
  have narrow : ¬ (Json.array [.ofInt greatestUnsigned]).IsWide := by
    rintro ⟨_, same, -⟩
    cases same
  have carried := (carries rfl).2.mpr narrow
  refine ⟨⟨real, rounded⟩, carried, ?_⟩
  have succeeds : ((Session.submit ⟨0⟩).run session).1.isOk = true := by
    decide +kernel
  rcases completed : (Session.submit ⟨0⟩).run session with
    ⟨error | code, after⟩
  · rw [completed] at succeeds
    cases succeeds
  · obtain ⟨record, told, published⟩ :=
      carried.submitted (by decide +kernel) code after completed
    have none : (session.gateway (session.workflow ⟨0⟩).gateway).submissions =
        [] := by decide +kernel
    have there : (session.workflow ⟨0⟩).gateway = ⟨0⟩ := by decide +kernel
    rw [none, there] at published
    refine ⟨record, told, ?_⟩
    rw [Operation.perform, completed]
    exact published

end Run

end Orchestration
