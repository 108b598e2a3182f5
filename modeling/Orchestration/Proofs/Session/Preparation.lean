import Orchestration.Proofs.Gateway.Progress
import Orchestration.Proofs.Session.Submission

namespace Orchestration

open Gateway (Method Request Server Upload)

/-! What is made before a workflow is described: its user and project, a check
of its switches, and the uploads. Which of these fail can be told before any of
them is made. -/

inductive Preparation where
  | user
  | project
  | switches
  | upload (resource : Resource)
deriving DecidableEq

def Workflow.preparations (workflow : Workflow) : List Preparation :=
  [.user, .project, .switches] ++ workflow.resources.map .upload

def Resource.asUpload (resource : Resource) (user : String) : Upload :=
  ⟨user, resource.name, resource.content.getD ""⟩

theorem Resource.upload_spec {resource : Resource} {user : String}
    {request : Request Unit} (made : resource.upload user = .ok request) :
    request.prepares ∧ request.uploads = [resource.asUpload user] := by
  rw [upload] at made
  cases content : resource.content with
  | none =>
      rw [content] at made
      cases made
  | some text =>
      simp only [content] at made
      split_ifs at made
      cases made
      simp [Request.prepares, Request.uploads, asUpload, content]

namespace Preparation

/-- What is asked of the gateway, if anything is and if nothing keeps it from
being asked. -/
def request (workflow : Workflow) (validated : Except Error Unit) :
    Preparation → Except Error (Option (Request Unit))
  | user =>
      .ok (some (.saveUser (workflow.defaults.userDefinition workflow.user)))
  | project =>
      .ok (some (.grantProject workflow.user workflow.project none))
  | switches => validated.map fun _ => none
  | upload resource => (resource.upload workflow.user).map some

/-- The gateway after a preparation was made or failed. -/
def serve (workflow : Workflow) (validated : Except Error Unit)
    (server : Server) (preparation : Preparation) : Server :=
  match preparation.request workflow validated with
  | .ok (some request) => (server.answer request).2
  | _ => server

def failure (workflow : Workflow) (validated : Except Error Unit)
    (server : Server) (preparation : Preparation) : Option Error :=
  match preparation.request workflow validated with
  | .ok (some request) => (server.primed request.method).map .gateway
  | .ok none => none
  | .error error => some error

def calls (workflow : Workflow) (validated : Except Error Unit)
    (preparation : Preparation) : List Method :=
  match preparation.request workflow validated with
  | .ok (some request) => [request.method]
  | _ => []

def uploads (workflow : Workflow) : Preparation → List Upload
  | upload resource => [resource.asUpload workflow.user]
  | _ => []

end Preparation

namespace Preparation

def attempt (workflow : Workflow) (id : WorkflowId)
    (preparation : Preparation) : Action Unit := do
  let request ← Action.ofExcept
    (preparation.request workflow ((← get).validate id))
  match request with
  | some request => Action.ask workflow.gateway request
  | none => return ()

def attemptAll (workflow : Workflow) (id : WorkflowId) :
    List Preparation → Action Unit
  | [] => return ()
  | preparation :: rest => do
      preparation.attempt workflow id
      attemptAll workflow id rest

theorem attempt_switches (workflow : Workflow) (id : WorkflowId) :
    switches.attempt workflow id =
      get >>= fun session => Action.ofExcept (session.validate id) := by
  rw [attempt]
  congr 1
  funext session
  cases session.validate id <;> rfl

theorem attempt_upload (workflow : Workflow) (id : WorkflowId)
    (resource : Resource) :
    (upload resource).attempt workflow id =
      Action.exchange workflow.gateway (resource.save workflow.user) := by
  rw [Session.exchange_save]
  funext session
  simp only [attempt, request]
  cases resource.upload workflow.user <;> rfl

theorem attemptAll_uploads (workflow : Workflow) (id : WorkflowId)
    (resources : List Resource) :
    attemptAll workflow id (resources.map .upload) =
      Session.uploadAll workflow resources := by
  induction resources with
  | nil => rfl
  | cons resource rest induction =>
      rw [List.map_cons, attemptAll, attempt_upload, induction]
      rfl

end Preparation

namespace Session

def withServer (session : Session) (id : GatewayId) (server : Server) :
    Session :=
  session.updateGateway id fun _ => server

section Hosted

variable {session : Session} {id : GatewayId}

@[simp] theorem withServer_withServer (session : Session) (id : GatewayId)
    (server other : Server) :
    (session.withServer id server).withServer id other =
      session.withServer id other := by
  simp [withServer]

theorem gateway_withServer (hosted : session.hasGateway id)
    (server : Server) : (session.withServer id server).gateway id = server :=
  gateway_updateGateway_self hosted _

theorem ask_run (session : Session) (id : GatewayId) (request : Request α) :
    (Action.ask id request).run session =
      (((session.gateway id).answer request).1.mapError Error.gateway,
        session.withServer id ((session.gateway id).answer request).2) := rfl

theorem ask_withServer (hosted : session.hasGateway id) (server : Server)
    (request : Request α) :
    (Action.ask id request).run (session.withServer id server) =
      ((server.answer request).1.mapError .gateway,
        session.withServer id (server.answer request).2) := by
  rw [ask_run, gateway_withServer hosted, withServer_withServer]

theorem checkVersion_run (session : Session) (id : GatewayId) :
    ∃ supported, (checkVersion id).run session =
      (.ok supported,
        session.withServer id ((session.gateway id).log [.version])) := by
  refine ⟨(Gateway.checkVersion (session.gateway id)).1, ?_⟩
  rw [← Gateway.checkVersion_snd]
  rfl

end Hosted

end Session

namespace Preparation

variable {workflow : Workflow} {validated : Except Error Unit}
  {preparation : Preparation} {server : Server}

theorem request_spec {request : Request Unit}
    (asked : preparation.request workflow validated = .ok (some request)) :
    request.prepares ∧ request.uploads = preparation.uploads workflow := by
  cases preparation with
  | user =>
      cases asked
      exact ⟨rfl, rfl⟩
  | project =>
      cases asked
      exact ⟨rfl, rfl⟩
  | switches => cases validated <;> cases asked
  | upload resource =>
      cases made : resource.upload workflow.user with
      | error error =>
          simp only [Preparation.request, made] at asked
          cases asked
      | ok upload =>
          simp only [Preparation.request, made] at asked
          cases asked
          exact Resource.upload_spec made

theorem uploads_of_silent
    (asked : preparation.request workflow validated = .ok none) :
    preparation.uploads workflow = [] := by
  cases preparation with
  | upload resource =>
      simp only [Preparation.request] at asked
      cases made : resource.upload workflow.user <;> rw [made] at asked <;>
        cases asked
  | _ => rfl

theorem serve_cases (preparation : Preparation) (workflow : Workflow)
    (validated : Except Error Unit) (server : Server) :
    (∃ error, preparation.failure workflow validated server = some error ∧
      server.Progress (preparation.serve workflow validated server)
        (preparation.calls workflow validated) []) ∨
    preparation.failure workflow validated server = none ∧
      server.Progress (preparation.serve workflow validated server)
        (preparation.calls workflow validated)
        (preparation.uploads workflow) := by
  rw [failure, serve, calls]
  cases asked : preparation.request workflow validated with
  | error error => exact .inl ⟨error, rfl, server.progress_refl⟩
  | ok request =>
      cases request with
      | none =>
          rw [uploads_of_silent asked]
          exact .inr ⟨rfl, server.progress_refl⟩
      | some request =>
          obtain ⟨prepares, uploaded⟩ := request_spec asked
          rw [← uploaded]
          rcases server.answer_prepares prepares with
            ⟨error, primed, -, progress⟩ | ⟨-, unprimed, -, progress⟩
          · exact .inl
              ⟨.gateway error, congrArg (Option.map _) primed, progress⟩
          · exact .inr ⟨congrArg (Option.map _) unprimed, progress⟩

theorem failure_of_progress {after : Server} {calls : List Method}
    {uploads : List Upload} (progress : server.Progress after calls uploads)
    (preparation : Preparation) :
    preparation.failure workflow validated after =
      preparation.failure workflow validated server := by
  simp only [failure, progress.primed]

theorem attempt_run {session : Session} {id : WorkflowId}
    (hosted : session.hasGateway workflow.gateway) (preparation : Preparation)
    (server : Server) :
    (preparation.attempt workflow id).run
        (session.withServer workflow.gateway server) =
      (match preparation.failure workflow (session.validate id) server with
        | some error => .error error
        | none => .ok (),
        session.withServer workflow.gateway
          (preparation.serve workflow (session.validate id) server)) := by
  have same : (session.withServer workflow.gateway server).validate id =
      session.validate id := rfl
  rw [attempt, Action.run_get_bind, Action.run_bind, same, failure, serve]
  cases asked : preparation.request workflow (session.validate id) with
  | error error => rfl
  | ok request =>
      cases request with
      | none => rfl
      | some request =>
          have answered := Session.ask_withServer hosted server request
          rcases server.answer_prepares (request_spec asked).1 with
            ⟨error, primed, failed, -⟩ | ⟨value, unprimed, served, -⟩
          · rw [failed] at answered
            simp only [primed]
            exact answered
          · rw [served] at answered
            simp only [unprimed]
            exact answered

theorem attemptAll_cases {session : Session} (id : WorkflowId)
    {validated : Except Error Unit} (same : session.validate id = validated)
    (hosted : session.hasGateway workflow.gateway)
    (preparations : List Preparation) (server : Server) :
    ((∀ preparation ∈ preparations,
          preparation.failure workflow validated server = none) ∧
        (attemptAll workflow id preparations).run
            (session.withServer workflow.gateway server) =
          (.ok (), session.withServer workflow.gateway
            (preparations.foldl (serve workflow validated) server)) ∧
        server.Progress (preparations.foldl (serve workflow validated) server)
          (preparations.flatMap (·.calls workflow validated))
          (preparations.flatMap (·.uploads workflow))) ∨
      ∃ done preparation later error after,
        preparations = done ++ preparation :: later ∧
        (∀ earlier ∈ done, earlier.failure workflow validated server = none) ∧
        preparation.failure workflow validated server = some error ∧
        (attemptAll workflow id preparations).run
            (session.withServer workflow.gateway server) =
          (.error error, session.withServer workflow.gateway after) ∧
        server.Progress after
          ((done ++ [preparation]).flatMap (·.calls workflow validated))
          (done.flatMap (·.uploads workflow)) := by
  subst same
  -- A gateway that has served a preparation fails at the same calls as before,
  -- so what is foretold of the rest may be told from either server.
  induction preparations generalizing server with
  | nil => exact .inl ⟨by simp, rfl, server.progress_refl⟩
  | cons preparation rest induction =>
      rw [attemptAll, Action.run_bind, attempt_run hosted]
      rcases preparation.serve_cases workflow (session.validate id) server with
        ⟨error, failed, progress⟩ | ⟨passed, progress⟩
      · rw [failed]
        refine .inr ⟨[], preparation, rest, error, _, rfl, by simp, failed, rfl,
          ?_⟩
        simpa using progress
      · rw [passed]
        have rest := induction
          (preparation.serve workflow (session.validate id) server)
        simp only [failure_of_progress progress] at rest
        rcases rest with ⟨all, ran, more⟩ |
          ⟨done, stopped, later, error, after, split, all, failed, ran, more⟩
        · refine .inl ⟨List.forall_mem_cons.mpr ⟨passed, all⟩, ran, ?_⟩
          exact progress.trans more
        · refine .inr ⟨preparation :: done, stopped, later, error, after, ?_,
            List.forall_mem_cons.mpr ⟨passed, all⟩, failed, ran, ?_⟩
          · rw [split, List.cons_append]
          · exact progress.trans more

end Preparation

end Orchestration
