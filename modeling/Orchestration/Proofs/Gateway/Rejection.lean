import Orchestration.Proofs.Gateway.History

namespace Orchestration.Gateway

namespace Server

inductive Lacks (server : Server) : Request α → Error → Prop where
  | environment {name : String}
      (unknown : server.environments.lookup name = none) :
      Lacks server (.environment name)
        (.notFound ("environment " ++ name ++ " does not exist"))
  | resourceFile {user name : String}
      (unknown : server.resources.lookup name = none) :
      Lacks server (.resourceFile user name)
        (.notFound
          ("resource " ++ name ++ " does not exist for user " ++ user))
  | datasource {name : String} {type : Option String}
      (unknown : server.datasources.lookup name = none) :
      Lacks server (.datasource name type)
        (.notFound ("datasource " ++ name ++ " does not exist"))
  /-- The datasource is there, with another type than the one asked for. -/
  | datasourceType {name type : String} {info : DatasourceInfo}
      (known : server.datasources.lookup name = some info)
      (other : Text.sameLetters info.type type = false) :
      Lacks server (.datasource name (some type))
        (.notFound ("datasource " ++ name ++ " does not exist"))
  | workflowInfo {user project workflow : String}
      (unknown : server.workflows.lookup ⟨project, workflow⟩ = none) :
      Lacks server (.workflowInfo user project workflow)
        (workflowMissing project workflow)
  | startWorkflow {start : WorkflowStart}
      (unknown : server.workflows.lookup
        ⟨start.project, start.workflowName⟩ = none) :
      Lacks server (.startWorkflow start)
        (workflowMissing start.project start.workflowName)

inductive Rejects (server : Server) (request : Request α) : Error → Prop where
  | primed {error : Error}
      (primed : server.primed request.method = some error) :
      Rejects server request error
  | lacks {error : Error} (unprimed : server.primed request.method = none)
      (lacks : server.Lacks request error) : Rejects server request error

variable {server : Server} {request : Request α} {error : Error}

theorem found_error_iff {value : Option α} {missing : Error} :
    (server.found value missing).1 = .error error ↔
      value = none ∧ missing = error := by
  cases value with
  | none => simp [found]
  | some value => simp [found]

theorem datasource?_eq_none_iff {name : String} {type : Option String} :
    server.datasource? name type = none ↔
      server.datasources.lookup name = none ∨
        ∃ info asked, server.datasources.lookup name = some info ∧
          type = some asked ∧ Text.sameLetters info.type asked = false := by
  rw [datasource?]
  cases server.datasources.lookup name with
  | none => simp
  | some info =>
      cases type with
      | none => simp [Option.filter]
      | some asked => simp [Option.filter]

/-- Serving a request fails exactly where something is not there. -/
theorem serve_error_iff :
    (server.serve request).1 = .error error ↔ server.Lacks request error := by
  constructor
  · intro failed
    cases request with
    | version => cases failed
    | taskIdentity project workflow task =>
        rw [serve, identify] at failed
        split at failed <;> cases failed
    | environment name =>
        obtain ⟨unknown, rfl⟩ := found_error_iff.mp failed
        exact .environment unknown
    | resourceFile user name =>
        obtain ⟨unknown, rfl⟩ := found_error_iff.mp failed
        exact .resourceFile (Option.map_eq_none_iff.mp unknown)
    | saveResource user name content => cases failed
    | datasource name type =>
        obtain ⟨missing, rfl⟩ := found_error_iff.mp failed
        rcases datasource?_eq_none_iff.mp missing with
          unknown | ⟨info, asked, known, rfl, other⟩
        · exact .datasource unknown
        · exact .datasourceType known other
    | workflowInfo user project workflow =>
        obtain ⟨unknown, rfl⟩ := found_error_iff.mp failed
        exact .workflowInfo unknown
    | saveUser user =>
        rw [serve, enroll] at failed
        split at failed <;> cases failed
    | grantProject user name description => cases failed
    | saveWorkflow definition =>
        rw [serve, accept] at failed
        split at failed <;> cases failed
    | startWorkflow start =>
        rw [serve, launch] at failed
        split at failed
        next => cases failed
        next unknown =>
          cases failed
          exact .startWorkflow unknown
  · intro lacks
    cases lacks with
    | environment unknown => exact found_error_iff.mpr ⟨unknown, rfl⟩
    | resourceFile unknown =>
        exact found_error_iff.mpr ⟨Option.map_eq_none_iff.mpr unknown, rfl⟩
    | datasource unknown =>
        exact found_error_iff.mpr
          ⟨datasource?_eq_none_iff.mpr (.inl unknown), rfl⟩
    | datasourceType known other =>
        exact found_error_iff.mpr
          ⟨datasource?_eq_none_iff.mpr (.inr ⟨_, _, known, rfl, other⟩), rfl⟩
    | workflowInfo unknown => exact found_error_iff.mpr ⟨unknown, rfl⟩
    | startWorkflow unknown => rw [serve, launch, unknown]

theorem lacks_log_iff {methods : List Method} :
    (server.log methods).Lacks request error ↔ server.Lacks request error := by
  rw [← serve_error_iff, ← serve_error_iff]
  have same : (server.log methods).unlogged = server.unlogged := rfl
  have served := (server.log methods).serve_unlogged request
  rw [same, serve_unlogged] at served
  rw [(Prod.mk.inj served).1]

theorem answer_error_iff :
    (server.answer request).1 = .error error ↔
      server.Rejects request error := by
  cases primed : server.primed request.method with
  | some cause =>
      rw [answer_of_primed primed]
      constructor
      · intro failed
        cases failed
        exact .primed primed
      · intro rejects
        cases rejects with
        | primed other =>
            cases primed.symm.trans other
            rfl
        | lacks unprimed => cases primed.symm.trans unprimed
  | none =>
      rw [answer_of_unprimed primed, serve_error_iff, lacks_log_iff]
      constructor
      · exact .lacks primed
      · intro rejects
        cases rejects with
        | primed other => cases primed.symm.trans other
        | lacks _ lacks => exact lacks

theorem serve_of_lacks (lacks : server.Lacks request error) :
    (server.serve request).2 = server := by
  cases lacks with
  | startWorkflow unknown => rw [serve, launch, unknown]
  | _ => exact server.serve_lookup rfl

theorem answer_of_rejects (rejects : server.Rejects request error) :
    (server.answer request).2 = server.log [request.method] := by
  cases rejects with
  | primed primed => rw [answer_of_primed primed]
  | lacks unprimed lacks =>
      rw [answer_of_unprimed unprimed, serve_of_lacks (lacks_log_iff.mpr lacks)]

theorem calls_answer (server : Server) (request : Request α) :
    (server.answer request).2.calls = server.calls ++ [request.method] := by
  rw [answer]
  split
  next => rfl
  next => exact (serve_serves _ request).calls

theorem calls_apply (server : Server) (priming : Priming) :
    (priming.apply server).calls = server.calls := by
  cases priming <;> rfl

end Server

namespace History

def methods : History server → List Method
  | start => []
  | call history request => history.methods ++ [request.method]
  | prime history _ => history.methods

theorem calls_eq (history : History server) :
    server.calls = history.methods := by
  induction history with
  | start => rfl
  | call history request induction =>
      rw [Server.calls_answer, induction, methods]
  | prime history priming induction =>
      rw [Server.calls_apply, induction, methods]

/-- Whatever a server was asked and prepared with, its log has the methods that
were called, and a call that fails, for one of the known reasons, leaves
nothing but its entry there. -/
theorem rejection (history : History server) :
    (∀ {α : Type} (request : Request α) error,
      (server.answer request).1 = .error error ↔
        server.Rejects request error) ∧
    (∀ {α : Type} (request : Request α) error,
      (server.answer request).1 = .error error →
        (server.answer request).2 =
          { server with calls := server.calls ++ [request.method] }) ∧
    server.calls = history.methods := by
  refine ⟨fun request error => Server.answer_error_iff, ?_, history.calls_eq⟩
  intro α request error failed
  exact Server.answer_of_rejects (Server.answer_error_iff.mp failed)

/-- A datasource is asked for with a type that is not its own, after a call that
was prepared to fail and one that was not. -/
def mismatched : (server : Server) × History server := ⟨_,
  start.prime (.datasource "db" ⟨7, "MYSQL"⟩)
    |>.prime (.failure .saveUser "down")
    |>.call (.saveUser ⟨"u", "", "", "", "", "", 1⟩)
    |>.call (.taskIdentity "p" "w" "a")⟩

theorem rejection_mismatched :
    let request : Request DatasourceInfo := .datasource "db" (some "HIVE")
    let error : Error := .notFound "datasource db does not exist"
    (mismatched.1.answer request).1 = .error error ∧
      (mismatched.1.answer request).2 =
        { mismatched.1 with
          calls := [.saveUser, .taskIdentity, .datasource] } ∧
      mismatched.1.Rejects request error ∧
      mismatched.1.calls = [.saveUser, .taskIdentity] := by
  intro request error
  have rejects : mismatched.1.Rejects request error :=
    .lacks rfl (.datasourceType rfl (by decide +kernel))
  obtain ⟨reasons, kept, logged⟩ := rejection mismatched.2
  have failed := (reasons request error).mpr rejects
  exact ⟨failed, kept request error failed, rejects, logged⟩

end History

end Orchestration.Gateway
