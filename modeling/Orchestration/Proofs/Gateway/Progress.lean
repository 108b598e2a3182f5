import Orchestration.Proofs.Gateway.Lookup

namespace Orchestration.Gateway

namespace Request

/-- The request prepares for a workflow and is served without fail. -/
def prepares : Request α → Bool
  | saveUser _ | grantProject _ _ _ | saveResource _ _ _ => true
  | _ => false

/-- What a request puts among the uploads, if it is served. -/
def uploads : Request α → List Upload
  | saveResource user name content => [⟨user, name, content⟩]
  | _ => []

end Request

def Upload.entry (upload : Upload) : String × String :=
  (upload.name, Server.resourcePath upload.user upload.name)

namespace Server

def primed (server : Server) (method : Method) : Option Error :=
  (server.failures.lookup method).map (.remoteCall method.name)

theorem answer_of_primed {server : Server} {request : Request α}
    {error : Error} (primed : server.primed request.method = some error) :
    server.answer request = (.error error, server.log [request.method]) := by
  rw [Server.primed, Option.map_eq_some_iff] at primed
  obtain ⟨message, found, rfl⟩ := primed
  have later : (server.logged request.method).failures.lookup request.method =
      some message := found
  simp only [answer, later]
  rfl

theorem answer_of_unprimed {server : Server} {request : Request α}
    (unprimed : server.primed request.method = none) :
    server.answer request = (server.log [request.method]).serve request := by
  rw [Server.primed, Option.map_eq_none_iff] at unprimed
  have later : (server.logged request.method).failures.lookup request.method =
      none := unprimed
  simp only [answer, later]
  rfl

/-- Calls are logged before they are served, and nobody but the one who prepares
a server makes calls fail. Files come from uploads, the last one first. -/
structure Serves (server : Server) (request : Request α) (after : Server) :
    Prop where
  calls : after.calls = server.calls
  failures : after.failures = server.failures
  resources : after.resources =
    request.uploads.map Upload.entry ++ server.resources

theorem serve_serves (server : Server) (request : Request α) :
    Serves server request (server.serve request).2 := by
  cases request with
  | taskIdentity project workflow task =>
      rw [serve, identify]
      split <;> exact ⟨rfl, rfl, rfl⟩
  | saveUser user =>
      rw [serve, enroll]
      split <;> exact ⟨rfl, rfl, rfl⟩
  | saveWorkflow definition =>
      rw [serve, accept]
      split <;> exact ⟨rfl, rfl, rfl⟩
  | startWorkflow start =>
      rw [serve, launch]
      split <;> exact ⟨rfl, rfl, rfl⟩
  | version => exact ⟨rfl, rfl, rfl⟩
  | saveResource user name content => exact ⟨rfl, rfl, rfl⟩
  | grantProject user name description => exact ⟨rfl, rfl, rfl⟩
  | _ =>
      rw [serve_lookup server rfl]
      exact ⟨rfl, rfl, rfl⟩

theorem resources_answer (server : Server) {request : Request α}
    (unprimed : server.primed request.method = none) :
    (server.answer request).2.resources =
      request.uploads.map Upload.entry ++ server.resources := by
  rw [answer_of_unprimed unprimed]
  exact (serve_serves _ request).resources

/-- Methods were called and files were uploaded. No workflow was published, and
the same calls fail. -/
structure Progress (before after : Server) (calls : List Method)
    (uploads : List Upload) : Prop where
  failures : after.failures = before.failures
  submissions : after.submissions = before.submissions
  workflows : after.workflows = before.workflows
  calls : after.calls = before.calls ++ calls
  uploads : after.uploads = before.uploads ++ uploads

namespace Progress

theorem trans {before middle after : Server} {calls moreCalls : List Method}
    {uploads moreUploads : List Upload}
    (first : Progress before middle calls uploads)
    (second : Progress middle after moreCalls moreUploads) :
    Progress before after (calls ++ moreCalls) (uploads ++ moreUploads) where
  failures := second.failures.trans first.failures
  submissions := second.submissions.trans first.submissions
  workflows := second.workflows.trans first.workflows
  calls := by rw [second.calls, first.calls, List.append_assoc]
  uploads := by rw [second.uploads, first.uploads, List.append_assoc]

theorem primed {before after : Server} {calls : List Method}
    {uploads : List Upload} (progress : Progress before after calls uploads)
    (method : Method) : after.primed method = before.primed method := by
  rw [Server.primed, Server.primed, progress.failures]

end Progress

theorem progress_log (server : Server) (methods : List Method) :
    Progress server (server.log methods) methods [] where
  failures := rfl
  submissions := rfl
  workflows := rfl
  calls := rfl
  uploads := (List.append_nil _).symm

theorem progress_refl (server : Server) : Progress server server [] [] := by
  have logged := server.progress_log []
  rwa [log_nil] at logged

theorem progress_serve (server : Server) {request : Request α}
    (prepares : request.prepares) :
    Progress server (server.serve request).2 [] request.uploads := by
  cases request with
  | saveUser user =>
      simp only [serve, enroll, Request.uploads]
      split
      · exact progress_refl server
      · exact ⟨rfl, rfl, rfl, (List.append_nil _).symm,
          (List.append_nil _).symm⟩
  | grantProject user name description =>
      exact ⟨rfl, rfl, rfl, (List.append_nil _).symm,
        (List.append_nil _).symm⟩
  | saveResource user name content =>
      exact ⟨rfl, rfl, rfl, (List.append_nil _).symm, rfl⟩
  | _ => cases prepares

theorem serve_prepares (server : Server) {request : Request α}
    (prepares : request.prepares) :
    ∃ value, (server.serve request).1 = .ok value := by
  cases request with
  | saveUser user =>
      simp only [serve, enroll]
      split
      · exact ⟨(), rfl⟩
      · exact ⟨(), rfl⟩
  | grantProject user name description => exact ⟨(), rfl⟩
  | saveResource user name content => exact ⟨(), rfl⟩
  | _ => cases prepares

/-- A request that prepares for a workflow fails as it was prepared to fail, or
else is served. -/
theorem answer_prepares (server : Server) {request : Request α}
    (prepares : request.prepares) :
    (∃ error, server.primed request.method = some error ∧
      (server.answer request).1 = .error error ∧
      Progress server (server.answer request).2 [request.method] []) ∨
    ∃ value, server.primed request.method = none ∧
      (server.answer request).1 = .ok value ∧
      Progress server (server.answer request).2 [request.method]
        request.uploads := by
  have logged := server.progress_log [request.method]
  cases primed : server.primed request.method with
  | some error =>
      rw [answer_of_primed primed]
      exact .inl ⟨error, rfl, rfl, logged⟩
  | none =>
      rw [answer_of_unprimed primed]
      obtain ⟨value, served⟩ :=
        (server.log [request.method]).serve_prepares prepares
      exact .inr ⟨value, rfl, served,
        logged.trans (progress_serve _ prepares)⟩

/-- What a gateway has once it accepted a workflow, under the code that it
answered. -/
structure Published (before after : Server) (definition : WorkflowDefinition)
    (code : Int) : Prop where
  submissions : after.submissions = before.submissions ++ [definition]
  calls : after.calls = before.calls
  uploads : after.uploads = before.uploads
  stored : ∃ info : WorkflowInfo,
    after.workflows.lookup ⟨definition.project, definition.name⟩ = some info ∧
      info.code = code

theorem accept_published (server : Server) (definition : WorkflowDefinition) :
    ∃ code, (server.accept definition).1 = .ok code ∧
      Published server (server.accept definition).2 definition code := by
  rw [accept]
  cases held : server.workflows.lookup
      ⟨definition.project, definition.name⟩ with
  | some info => exact ⟨info.code, rfl, rfl, rfl, rfl, info, held, rfl⟩
  | none =>
      refine ⟨server.nextCode, rfl, rfl, rfl, rfl,
        ⟨server.nextCode, definition.name⟩, ?_, rfl⟩
      exact List.lookup_cons_self

theorem answer_saveWorkflow (server : Server)
    (definition : WorkflowDefinition) :
    (∃ error, server.primed .saveWorkflow = some error ∧
      server.answer (.saveWorkflow definition) =
        (.error error, server.log [.saveWorkflow])) ∨
    ∃ code after, server.primed .saveWorkflow = none ∧
      server.answer (.saveWorkflow definition) = (.ok code, after) ∧
      Published (server.log [.saveWorkflow]) after definition code := by
  cases primed : server.primed .saveWorkflow with
  | some error => exact .inl ⟨error, rfl, answer_of_primed primed⟩
  | none =>
      obtain ⟨code, accepted, published⟩ :=
        (server.log [.saveWorkflow]).accept_published definition
      have answered : server.answer (.saveWorkflow definition) =
          (server.log [.saveWorkflow]).serve (.saveWorkflow definition) :=
        answer_of_unprimed primed
      refine .inr ⟨code, _, rfl, ?_, published⟩
      rw [answered]
      exact Prod.ext accepted rfl

end Server

end Orchestration.Gateway
