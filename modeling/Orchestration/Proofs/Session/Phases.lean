import Orchestration.Proofs.Session.Preparation
import Orchestration.Proofs.Session.Run

namespace Orchestration

open Gateway (Method Server Upload)

/-! Submitting in steps: all preparations, the description of the workflow, and
its publication. Which of the steps fail can be told before any of them is
made. -/

inductive SubmitStep where
  | prepare (preparation : Preparation)
  | describe
  | save
deriving DecidableEq

def Workflow.submitSteps (workflow : Workflow) : List SubmitStep :=
  workflow.preparations.map .prepare ++ [.describe, .save]

def errorOf : Except ε α → Option ε
  | .error error => some error
  | .ok _ => none

namespace Session

/-- The session in which a workflow is described: its gateway has been asked for
the version, and every preparation was made. -/
def prepared (session : Session) (id : WorkflowId) : Session :=
  let workflow := session.workflow id
  let before := session.gateway workflow.gateway
  session.withServer workflow.gateway
    (workflow.preparations.foldl
      (Preparation.serve workflow (session.validate id))
      (before.log [.version]))

end Session

namespace SubmitStep

def failure (session : Session) (id : WorkflowId) :
    SubmitStep → Option Error
  | prepare preparation =>
      let workflow := session.workflow id
      preparation.failure workflow (session.validate id)
        (session.gateway workflow.gateway)
  | describe =>
      errorOf ((Session.definition id).run (session.prepared id)).1
  | save =>
      let server := session.gateway (session.workflow id).gateway
      (server.primed .saveWorkflow).map .gateway

/-- The calls of a step; what a description looks up is told apart. -/
def calls (session : Session) (id : WorkflowId) (lookups : List Method) :
    SubmitStep → List Method
  | prepare preparation =>
      preparation.calls (session.workflow id) (session.validate id)
  | describe => lookups
  | save => [.saveWorkflow]

def uploads (workflow : Workflow) : SubmitStep → List Upload
  | prepare preparation => preparation.uploads workflow
  | _ => []

end SubmitStep

namespace Session

def prepare (workflow : Workflow) (id : WorkflowId) : Action Unit := do
  let _ ← checkVersion workflow.gateway
  Preparation.attemptAll workflow id workflow.preparations

def publish (workflow : Workflow) (id : WorkflowId) : Action Int := do
  let definition ← definition id
  let code ← Action.ask workflow.gateway (.saveWorkflow definition)
  modify fun session => session.updateWorkflow id fun workflow =>
    { workflow with code := some code }
  return code

theorem submit_eq (id : WorkflowId) :
    submit id = (do
      let workflow := (← get).workflow id
      prepare workflow id
      publish workflow id) := by
  rw [submit]
  congr 1
  funext session
  simp only [prepare, Workflow.preparations, List.cons_append,
    List.nil_append, Preparation.attemptAll, Preparation.attemptAll_uploads,
    Preparation.attempt_switches, bind_assoc, ensureOwner]
  rfl

end Session

namespace Workflow

theorem uploads_submitSteps (workflow : Workflow) :
    workflow.submitSteps.flatMap (·.uploads workflow) =
      workflow.resources.map (·.asUpload workflow.user) := by
  simp only [submitSteps, preparations, List.flatMap_append, List.flatMap_map,
    List.flatMap_cons, List.flatMap_nil, List.map_append, List.map_map,
    List.map_cons, List.map_nil, SubmitStep.uploads, Preparation.uploads,
    List.nil_append, List.append_nil, Function.comp_def]
  exact List.flatMap_pure_eq_map _ workflow.resources

end Workflow

namespace Session

variable {session : Session} {id : WorkflowId}

/-- How far a submission came: the steps that were made, and those that were
left. The first of these may have been tried. -/
structure Phased (session : Session) (id : WorkflowId) (after : Session)
    (done rest : List SubmitStep) : Prop where
  steps : (session.workflow id).submitSteps = done ++ rest
  passed : ∀ step ∈ done, step.failure session id = none
  calls : ∃ lookups : List Method, (∀ method ∈ lookups, method.isLookup) ∧
    (after.gateway (session.workflow id).gateway).calls =
      (session.gateway (session.workflow id).gateway).calls ++
        .version :: (done ++ rest.take 1).flatMap (·.calls session id lookups)
  uploads : (after.gateway (session.workflow id).gateway).uploads =
    (session.gateway (session.workflow id).gateway).uploads ++
      done.flatMap (·.uploads (session.workflow id))

/-- The submission stopped at the first step that was left. Nothing was
published, and the first resources were uploaded. -/
structure Stopped (session : Session) (id : WorkflowId) (after : Session)
    (rest : List SubmitStep) (error : Error) : Prop where
  failed : ∃ step later, rest = step :: later ∧
    step.failure session id = some error
  code : (after.workflow id).code = (session.workflow id).code
  submissions : (after.gateway (session.workflow id).gateway).submissions =
    (session.gateway (session.workflow id).gateway).submissions
  workflows : (after.gateway (session.workflow id).gateway).workflows =
    (session.gateway (session.workflow id).gateway).workflows
  uploads : ∃ uploaded, uploaded <+: (session.workflow id).resources ∧
    (after.gateway (session.workflow id).gateway).uploads =
      (session.gateway (session.workflow id).gateway).uploads ++
        uploaded.map (·.asUpload (session.workflow id).user)

/-- All resources were uploaded, the workflow was submitted once, and its code
is the one under which its gateway stores it. -/
structure Submitted (session : Session) (id : WorkflowId) (after : Session)
    (code : Int) : Prop where
  assigned : (after.workflow id).code = some code
  submission : ∃ definition : WorkflowDefinition,
    definition.project = (session.workflow id).project ∧
    definition.name = (session.workflow id).name ∧
    (after.gateway (session.workflow id).gateway).submissions =
      (session.gateway (session.workflow id).gateway).submissions ++
        [definition]
  stored : ∃ info : WorkflowInfo,
    (after.gateway (session.workflow id).gateway).workflows.lookup
      ⟨(session.workflow id).project, (session.workflow id).name⟩ = some info ∧
    info.code = code
  uploads : (after.gateway (session.workflow id).gateway).uploads =
    (session.gateway (session.workflow id).gateway).uploads ++
      (session.workflow id).resources.map
        (·.asUpload (session.workflow id).user)

theorem Phased.uploaded {after : Session} {done rest : List SubmitStep}
    (phased : Phased session id after done rest) :
    ∃ uploaded, uploaded <+: (session.workflow id).resources ∧
      (after.gateway (session.workflow id).gateway).uploads =
        (session.gateway (session.workflow id).gateway).uploads ++
          uploaded.map (·.asUpload (session.workflow id).user) := by
  have first : done.flatMap (·.uploads (session.workflow id)) <+:
      (session.workflow id).resources.map
        (·.asUpload (session.workflow id).user) := by
    rw [← Workflow.uploads_submitSteps, phased.steps, List.flatMap_append]
    exact List.prefix_append _ _
  obtain ⟨uploaded, before, same⟩ := List.prefix_map_iff.mp first
  exact ⟨uploaded, before, same ▸ phased.uploads⟩

theorem names_of_definition {record : WorkflowDefinition} {after : Session}
    (completed : (definition id).run session = (.ok record, after)) :
    record.project = (session.workflow id).project ∧
      record.name = (session.workflow id).name := by
  have looked := definition_looked id session
  rw [completed] at looked
  obtain ⟨_, _, _, -, -, project, name, -⟩ := definition_parts completed
  rw [project, name]
  exact ⟨workflow_of_looked Workflow.project (fun _ => rfl) looked id,
    workflow_of_looked Workflow.name (fun _ => rfl) looked id⟩

/-- Some steps passed, then others were tried, and this is what the gateway has
come to. -/
structure Made (session : Session) (id : WorkflowId) (lookups : List Method)
    (done tried : List SubmitStep) (server : Server) : Prop where
  passed : ∀ step ∈ done, step.failure session id = none
  progress : (session.gateway (session.workflow id).gateway).Progress server
    (.version :: (done ++ tried).flatMap (·.calls session id lookups))
    (done.flatMap (·.uploads (session.workflow id)))

namespace Made

variable {lookups : List Method} {done : List SubmitStep}
  {server after : Server} {step : SubmitStep}

theorem fail (made : Made session id lookups done [] server)
    (step : SubmitStep)
    (progress : server.Progress after (step.calls session id lookups) []) :
    Made session id lookups done [step] after where
  passed := made.passed
  progress := by simpa using made.progress.trans progress

theorem pass (made : Made session id lookups done [] server)
    (step : SubmitStep) (passed : step.failure session id = none)
    (progress : server.Progress after (step.calls session id lookups)
      (step.uploads (session.workflow id))) :
    Made session id lookups (done ++ [step]) [] after where
  passed := List.forall_mem_append.mpr
    ⟨made.passed, List.forall_mem_singleton.mpr passed⟩
  progress := by simpa using made.progress.trans progress

theorem of_preparations {done : List Preparation} (tried : List Preparation)
    (passed : ∀ preparation ∈ done,
      (SubmitStep.prepare preparation).failure session id = none)
    (progress : (session.gateway (session.workflow id).gateway).Progress server
      (.version :: (done ++ tried).flatMap
        (·.calls (session.workflow id) (session.validate id)))
      (done.flatMap (·.uploads (session.workflow id)))) :
    Made session id lookups (done.map .prepare) (tried.map .prepare)
      server where
  passed := List.forall_mem_map.mpr passed
  progress := by
    rw [← List.map_append, List.flatMap_map, List.flatMap_map]
    exact progress

theorem stopped {after : Session} {later : List SubmitStep} {error : Error}
    (made : Made session id lookups done [step]
      (after.gateway (session.workflow id).gateway))
    (steps : (session.workflow id).submitSteps = done ++ step :: later)
    (looks : ∀ method ∈ lookups, method.isLookup)
    (failed : step.failure session id = some error)
    (code : (after.workflow id).code = (session.workflow id).code) :
    Phased session id after done (step :: later) ∧
      Stopped session id after (step :: later) error := by
  have phased : Phased session id after done (step :: later) :=
    ⟨steps, made.passed, ⟨lookups, looks, made.progress.calls⟩,
      made.progress.uploads⟩
  exact ⟨phased, ⟨step, later, rfl, failed⟩, code,
    made.progress.submissions, made.progress.workflows, phased.uploaded⟩

theorem submitted {after : Session} {code : Int} {record : WorkflowDefinition}
    (made : Made session id lookups (session.workflow id).submitSteps []
      server)
    (looks : ∀ method ∈ lookups, method.isLookup)
    (assigned : (after.workflow id).code = some code)
    (project : record.project = (session.workflow id).project)
    (name : record.name = (session.workflow id).name)
    (published : server.Published
      (after.gateway (session.workflow id).gateway) record code) :
    Phased session id after (session.workflow id).submitSteps [] ∧
      Submitted session id after code := by
  have phased : Phased session id after
      (session.workflow id).submitSteps [] := by
    refine ⟨(List.append_nil _).symm, made.passed, ⟨lookups, looks, ?_⟩, ?_⟩
    · exact published.calls.trans made.progress.calls
    · exact published.uploads.trans made.progress.uploads
  refine ⟨phased, assigned, ⟨record, project, name, ?_⟩, ?_, ?_⟩
  · rw [published.submissions, made.progress.submissions]
  · rw [← project, ← name]
    exact published.stored
  · rw [phased.uploads, Workflow.uploads_submitSteps]

end Made

theorem prepare_cases (session : Session) (id : WorkflowId)
    (hosted : session.hasGateway (session.workflow id).gateway) :
    let workflow := session.workflow id
    ((prepare workflow id).run session = (.ok (), session.prepared id) ∧
        ∀ lookups, Made session id lookups
          (workflow.preparations.map .prepare) []
          ((session.prepared id).gateway workflow.gateway)) ∨
      ∃ done preparation later error after,
        workflow.preparations = done ++ preparation :: later ∧
        (SubmitStep.prepare preparation).failure session id = some error ∧
        (prepare workflow id).run session =
          (.error error, session.withServer workflow.gateway after) ∧
        ∀ lookups, Made session id lookups (done.map .prepare)
          [.prepare preparation] after := by
  intro workflow
  obtain ⟨supported, asked⟩ := checkVersion_run session workflow.gateway
  have logged := (session.gateway workflow.gateway).progress_log [.version]
  have cases := Preparation.attemptAll_cases id rfl hosted
    workflow.preparations ((session.gateway workflow.gateway).log [.version])
  simp only [Preparation.failure_of_progress logged] at cases
  rw [prepare, Action.run_bind, asked]
  rcases cases with ⟨all, ran, progress⟩ |
    ⟨done, stopped, later, error, after, split, all, failed, ran, progress⟩
  · refine .inl ⟨ran, fun lookups => .of_preparations [] all ?_⟩
    rw [List.append_nil, prepared, gateway_withServer hosted]
    exact logged.trans progress
  · exact .inr ⟨done, stopped, later, error, after, split, failed, ran,
      fun lookups => .of_preparations [stopped] all (logged.trans progress)⟩

theorem publish_cases {workflow : Workflow}
    (same : session.workflow id = workflow) (present : session.hasWorkflow id)
    (hosted : session.hasGateway workflow.gateway) :
    let before := session.gateway workflow.gateway
    let described := errorOf ((definition id).run session).1
    ∃ lookups : List Method, (∀ method ∈ lookups, method.isLookup) ∧
      ((∃ error after, described = some error ∧
          (publish workflow id).run session = (.error error, after) ∧
          (after.workflow id).code = workflow.code ∧
          after.gateway workflow.gateway = before.log lookups) ∨
        (∃ error after, described = none ∧
          before.primed .saveWorkflow = some error ∧
          (publish workflow id).run session = (.error (.gateway error), after) ∧
          (after.workflow id).code = workflow.code ∧
          after.gateway workflow.gateway =
            (before.log lookups).log [.saveWorkflow]) ∨
        ∃ code record after, described = none ∧
          before.primed .saveWorkflow = none ∧
          (publish workflow id).run session = (.ok code, after) ∧
          (after.workflow id).code = some code ∧
          record.project = workflow.project ∧ record.name = workflow.name ∧
          ((before.log lookups).log [.saveWorkflow]).Published
            (after.gateway workflow.gateway) record code) := by
  intro before described
  have looked := definition_looked id session
  obtain ⟨lookups, looks, logged⟩ := gateway_of_looked looked workflow.gateway
  obtain ⟨gateways, workflows⟩ := hasObjects_of_looked looked
  have code := workflow_of_looked Workflow.code (fun _ => rfl) looked id
  rw [same] at code
  refine ⟨lookups, looks, ?_⟩
  rw [publish, Action.run_bind]
  have names : ∀ record after,
      (definition id).run session = (.ok record, after) →
        record.project = workflow.project ∧ record.name = workflow.name := by
    intro record after completed
    rw [← same]
    exact names_of_definition completed
  subst described
  generalize (definition id).run session = reached at *
  obtain ⟨outcome, after⟩ := reached
  dsimp only at logged gateways workflows code
  cases outcome with
  | error error => exact .inl ⟨error, after, rfl, rfl, code, logged⟩
  | ok record =>
      right
      have stillHosted : after.hasGateway workflow.gateway := by
        rw [gateways]
        exact hosted
      have stillPresent : after.hasWorkflow id := by
        rw [workflows]
        exact present
      have primedThen : ∀ method,
          (before.log lookups).primed method = before.primed method :=
        (before.progress_log lookups).primed
      dsimp only
      rw [Action.run_bind, ask_run, logged]
      rcases Server.answer_saveWorkflow (before.log lookups) record with
        ⟨error, primed, answered⟩ |
        ⟨assigned, stored, unprimed, answered, published⟩
      · rw [answered]
        exact .inl ⟨error, _, rfl, primedThen _ ▸ primed, rfl, code,
          gateway_withServer stillHosted _⟩
      · rw [answered]
        obtain ⟨project, name⟩ := names record after rfl
        refine .inr ⟨assigned, record, _, rfl, primedThen _ ▸ unprimed, rfl, ?_,
          project, name, ?_⟩
        · exact congrArg Workflow.code
            (workflow_updateWorkflow_self stillPresent _)
        · change Server.Published _ ((after.withServer workflow.gateway
            stored).gateway workflow.gateway) record assigned
          rw [gateway_withServer stillHosted]
          exact published

theorem submit_cases (present : session.hasWorkflow id)
    (hosted : session.hasGateway (session.workflow id).gateway) :
    (∃ done rest error after, (submit id).run session = (.error error, after) ∧
      Phased session id after done rest ∧
      Stopped session id after rest error) ∨
    ∃ code after, (submit id).run session = (.ok code, after) ∧
      Phased session id after (session.workflow id).submitSteps [] ∧
      Submitted session id after code := by
  rw [submit_eq, Action.run_get_bind]
  dsimp only
  rw [Action.run_bind]
  rcases prepare_cases session id hosted with ⟨ran, made⟩ |
    ⟨done, stopped, later, error, after, split, failed, ran, made⟩
  · have presentThen : (session.prepared id).hasWorkflow id := present
    have hostedThen : (session.prepared id).hasGateway
        (session.workflow id).gateway := by
      rw [Session.prepared, withServer, hasGateway_updateGateway]
      exact hosted
    have same : (session.prepared id).workflow id = session.workflow id := rfl
    have save : SubmitStep.failure session id .save =
        (((session.prepared id).gateway (session.workflow id).gateway).primed
          .saveWorkflow).map .gateway :=
      congrArg (Option.map Error.gateway)
        ((made []).progress.primed .saveWorkflow).symm
    rw [ran]
    obtain ⟨lookups, looks, cases⟩ :=
      publish_cases same presentThen hostedThen
    have made := made lookups
    have steps : (session.workflow id).submitSteps =
        ((session.workflow id).preparations.map .prepare ++ [.describe]) ++
          [.save] :=
      (List.append_assoc _ [SubmitStep.describe] [SubmitStep.save]).symm
    rcases cases with
      ⟨error, after, described, ran, code, logged⟩ |
      ⟨error, after, described, primed, ran, code, logged⟩ |
      ⟨code, record, after, described, primed, ran, assigned, project, name,
        published⟩
    · have made := made.fail .describe (Server.progress_log _ lookups)
      rw [← logged] at made
      exact .inl ⟨_, _, error, after, ran,
        made.stopped rfl looks described code⟩
    · have made := made.pass .describe described (Server.progress_log _ lookups)
      have made := made.fail .save (Server.progress_log _ [.saveWorkflow])
      rw [← logged] at made
      exact .inl ⟨_, _, .gateway error, after, ran,
        made.stopped steps looks (by rw [save, primed]; rfl) code⟩
    · have made := made.pass .describe described (Server.progress_log _ lookups)
      have made := made.pass .save (by rw [save, primed]; rfl)
        (Server.progress_log _ [.saveWorkflow])
      rw [← steps] at made
      exact .inr ⟨code, after, ran,
        made.submitted looks assigned project name published⟩
  · have steps : (session.workflow id).submitSteps =
        done.map .prepare ++
          .prepare stopped :: (later.map .prepare ++ [.describe, .save]) := by
      rw [Workflow.submitSteps, split, List.map_append, List.append_assoc]
      rfl
    have made := made []
    rw [ran]
    rw [← gateway_withServer hosted after] at made
    exact .inl ⟨_, _, error, _, rfl,
      made.stopped steps (List.forall_mem_nil _) failed rfl⟩

/-- A submission makes its steps in order and stops at the first that fails; the
question for the version before them stops nothing. Unless all steps are made,
nothing is published and the workflow keeps the code it has; otherwise it is
submitted once and has the code that its gateway stores. It keeps that code if
it cannot be started then. -/
theorem phases (present : session.hasWorkflow id)
    (hosted : session.hasGateway (session.workflow id).gateway) :
    ∃ done rest after,
      Phased session id after done rest ∧
        ((∃ error, (submit id).run session = (.error error, after) ∧
            (submitAndStart id).run session = (.error error, after) ∧
            Stopped session id after rest error) ∨
          ∃ code, (submit id).run session = (.ok code, after) ∧ rest = [] ∧
            Submitted session id after code ∧
            ((submitAndStart id).run session).1 =
              ((start id).run after).1.map (fun _ => code) ∧
            (((submitAndStart id).run session).2.workflow id).code =
              some code) := by
  rw [submitAndStart, Action.run_bind]
  rcases submit_cases present hosted with
    ⟨done, rest, error, after, ran, phased, stopped⟩ |
    ⟨code, after, ran, phased, submitted⟩
  · rw [ran]
    exact ⟨done, rest, after, phased, .inl ⟨error, rfl, rfl, stopped⟩⟩
  · rw [ran]
    refine ⟨_, [], after, phased, .inr ⟨code, rfl, rfl, submitted, ?_⟩⟩
    have kept := sameObjects_of_served (start_respects id after)
    dsimp only
    rw [Action.run_bind]
    generalize (start id).run after = reached at kept ⊢
    obtain ⟨outcome, last⟩ := reached
    have assigned : (last.workflow id).code = some code := by
      rw [kept.workflow]
      exact submitted.assigned
    cases outcome with
    | error error => exact ⟨rfl, assigned⟩
    | ok value => exact ⟨rfl, assigned⟩

/-- The version is not answered, which stops nothing; the second of two files
has no content, which stops the submission. -/
theorem phases_halted :
    let server := Server.withFailure {} .version "down"
    let resources : List Resource :=
      [{ name := "a", content := some "x" }, { name := "b" }]
    let session := Operation.performAll { now := "" } [.openGateway server,
      .openWorkflow { name := "w", gateway := ⟨0⟩, resources := resources }]
    let error : Error := .parameter (.contentRequired "b")
    session.hasWorkflow ⟨0⟩ ∧
      session.hasGateway (session.workflow ⟨0⟩).gateway ∧
      ∃ done rest after, Phased session ⟨0⟩ after done rest ∧
        (submit ⟨0⟩).run session = (.error error, after) ∧
        Stopped session ⟨0⟩ after rest error := by
  intro server resources session error
  have present : session.hasWorkflow ⟨0⟩ := by decide +kernel
  have hosted : session.hasGateway (session.workflow ⟨0⟩).gateway := by
    decide +kernel
  have outcome : errorOf ((submit ⟨0⟩).run session).1 = some error := by
    decide +kernel
  obtain ⟨done, rest, after, phased, stopped | submitted⟩ :=
    phases present hosted
  · obtain ⟨found, ran, -, stopped⟩ := stopped
    rw [ran] at outcome
    cases outcome
    exact ⟨present, hosted, done, rest, after, phased, ran, stopped⟩
  · obtain ⟨code, ran, -⟩ := submitted
    rw [ran] at outcome
    cases outcome

end Session

end Orchestration
