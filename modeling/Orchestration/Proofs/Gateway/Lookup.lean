import Orchestration.Resource.Basic

namespace Orchestration

open Gateway (Exchange Method Request Server)

namespace Gateway

/-! Requests that look something up. They leave no more than an entry in the
log, and nothing that is answered depends on the log. -/

namespace Method

def isLookup : Method → Bool
  | environment | resourceFile | datasource | workflowInfo => true
  | _ => false

end Method

namespace Server

def log (server : Server) (methods : List Method) : Server :=
  { server with calls := server.calls ++ methods }

def unlogged (server : Server) : Server := { server with calls := [] }

@[simp] theorem log_nil (server : Server) : server.log [] = server := by
  simp [log]

@[simp] theorem log_log (server : Server) (first second : List Method) :
    (server.log first).log second = server.log (first ++ second) := by
  simp [log]

@[simp] theorem unlogged_log (server : Server) (methods : List Method) :
    (server.log methods).unlogged = server.unlogged := rfl

theorem snd_found (server : Server) (value : Option α) (error : Error) :
    (server.found value error).2 = server := by
  cases value <;> rfl

theorem serve_lookup (server : Server) {request : Request α}
    (lookup : request.method.isLookup) : (server.serve request).2 = server := by
  cases request with
  | environment name => exact snd_found server _ _
  | resourceFile user name => exact snd_found server _ _
  | datasource name type => exact snd_found server _ _
  | workflowInfo user project workflow => exact snd_found server _ _
  | _ => cases lookup

theorem answer_of_kept {request : Request α}
    (kept : ∀ server : Server, (server.serve request).2 = server)
    (server : Server) :
    (server.answer request).2 = server.log [request.method] := by
  rw [answer]
  split
  · rfl
  · exact kept _

theorem answer_lookup (server : Server) {request : Request α}
    (lookup : request.method.isLookup) :
    (server.answer request).2 = server.log [request.method] :=
  answer_of_kept (fun server => server.serve_lookup lookup) server

theorem found_unlogged (server : Server) (value : Option α) (error : Error) :
    server.unlogged.found value error =
      ((server.found value error).1,
        (server.found value error).2.unlogged) := by
  cases value <;> rfl

/-- What is served and what it changes does not depend on the log. -/
theorem serve_unlogged (server : Server) (request : Request α) :
    server.unlogged.serve request =
      ((server.serve request).1, (server.serve request).2.unlogged) := by
  cases request with
  | version => rfl
  | taskIdentity project workflow task =>
      cases held : server.identities.lookup ⟨project, workflow, task⟩ <;>
        simp [serve, identify, unlogged, held]
  | environment name => exact found_unlogged server _ _
  | resourceFile user name => exact found_unlogged server _ _
  | saveResource user name content => rfl
  | datasource name type => exact found_unlogged server _ _
  | workflowInfo user project workflow => exact found_unlogged server _ _
  | saveUser user =>
      cases known : server.users.any fun known => known.name == user.name <;>
        simp [serve, enroll, unlogged, known]
  | grantProject user name description => rfl
  | saveWorkflow definition =>
      cases held : server.workflows.lookup
          ⟨definition.project, definition.name⟩ <;>
        simp [serve, accept, unlogged, held]
  | startWorkflow start =>
      cases held : server.workflows.lookup
          ⟨start.project, start.workflowName⟩ <;>
        simp [serve, launch, unlogged, held]

/-- Servers that differ in the log alone give the same answers. -/
theorem answer_agrees {server other : Server}
    (same : server.unlogged = other.unlogged) (request : Request α) :
    (server.answer request).1 = (other.answer request).1 ∧
      (server.answer request).2.unlogged =
        (other.answer request).2.unlogged := by
  have failures : server.failures = other.failures := by
    have kept : server.unlogged.failures = other.unlogged.failures := by
      rw [same]
    exact kept
  have loggedSame : (server.logged request.method).unlogged =
      (other.logged request.method).unlogged := same
  have served := (server.logged request.method).serve_unlogged request
  rw [loggedSame, serve_unlogged] at served
  have both := Prod.mk.inj served
  have reads : ∀ server : Server, (server.logged request.method).failures =
      server.failures := fun _ => rfl
  simp only [answer, reads, failures]
  cases other.failures.lookup request.method with
  | some message => exact ⟨rfl, loggedSame⟩
  | none => exact ⟨both.1.symm, both.2.symm⟩

end Server

theorem checkVersion_snd (server : Server) :
    (checkVersion server).2 = server.log [.version] := by
  have asked : (server.answer .version).2 = server.log [.version] :=
    Server.answer_of_kept (fun _ => rfl) server
  rw [← asked, checkVersion]
  rcases server.answer .version with ⟨result, after⟩
  cases result <;> rfl

theorem checkVersion_agrees {server other : Server}
    (same : server.unlogged = other.unlogged) :
    (checkVersion server).1 = (checkVersion other).1 := by
  have answer := (Server.answer_agrees same .version).1
  rw [checkVersion, checkVersion]
  rcases asked : server.answer .version with ⟨result, after⟩
  rcases otherAsked : other.answer .version with ⟨otherResult, otherAfter⟩
  rw [asked, otherAsked] at answer
  cases answer
  cases result <;> rfl

end Gateway

namespace Gateway.Exchange

theorem run_bind (exchange : Exchange α) (next : α → Exchange β)
    (server : Server) :
    (exchange >>= next).run server =
      match exchange.run server with
      | (.ok value, middle) => (next value).run middle
      | (.error error, middle) => (.error error, middle) := by
  change (exchange >>= next) server = _
  simp only [bind, ExceptT.bind, ExceptT.mk, StateT.bind, run]
  rcases exchange server with ⟨result, middle⟩
  cases result <;> rfl

/-- The exchange looks things up: it leaves entries in the log, and its result
does not depend on the log. -/
structure Looks (exchange : Exchange α) : Prop where
  log : ∀ server, ∃ methods : List Method,
    (∀ method ∈ methods, method.isLookup) ∧
      (exchange.run server).2 = server.log methods
  agrees : ∀ server other : Server, server.unlogged = other.unlogged →
    (exchange.run server).1 = (exchange.run other).1

namespace Looks

theorem pure (value : α) : Looks (pure value : Exchange α) where
  log server := ⟨[], by simp, server.log_nil.symm⟩
  agrees _ _ _ := rfl

theorem ofExcept (result : Except Orchestration.Error α) :
    Looks (Exchange.ofExcept result) where
  log server := ⟨[], by simp, server.log_nil.symm⟩
  agrees _ _ _ := rfl

theorem ask {request : Request α} (lookup : request.method.isLookup) :
    Looks (Exchange.ask request) where
  log server :=
    ⟨[request.method], by simpa using lookup, server.answer_lookup lookup⟩
  agrees _ _ same :=
    congrArg (Except.mapError Orchestration.Error.gateway)
      (Server.answer_agrees same request).1

theorem unlogged_run {exchange : Exchange α} (looks : Looks exchange)
    (server : Server) :
    (exchange.run server).2.unlogged = server.unlogged := by
  obtain ⟨methods, -, logged⟩ := looks.log server
  rw [logged, Server.unlogged_log]

theorem bind {exchange : Exchange α} {next : α → Exchange β}
    (first : Looks exchange) (rest : ∀ value, Looks (next value)) :
    Looks (exchange >>= next) where
  log server := by
    obtain ⟨methods, lookups, logged⟩ := first.log server
    rw [run_bind]
    generalize exchange.run server = reached at logged ⊢
    obtain ⟨outcome, middle⟩ := reached
    cases logged
    cases outcome with
    | error error => exact ⟨methods, lookups, rfl⟩
    | ok value =>
        obtain ⟨others, otherLookups, logged⟩ :=
          (rest value).log (server.log methods)
        refine ⟨methods ++ others, ?_, ?_⟩
        · exact List.forall_mem_append.mpr ⟨lookups, otherLookups⟩
        · rw [← Server.log_log]
          exact logged
  agrees server other same := by
    have result := first.agrees server other same
    have after : (exchange.run server).2.unlogged =
        (exchange.run other).2.unlogged := by
      rw [first.unlogged_run, first.unlogged_run, same]
    rw [run_bind, run_bind]
    generalize exchange.run server = reached at result after ⊢
    generalize exchange.run other = otherReached at result after ⊢
    obtain ⟨outcome, middle⟩ := reached
    obtain ⟨otherOutcome, otherMiddle⟩ := otherReached
    cases result
    cases outcome with
    | error error => rfl
    | ok value => exact (rest value).agrees middle otherMiddle after

end Looks

end Gateway.Exchange

namespace ResourceReference

open Gateway.Exchange (Looks)

theorem resolve_looks (user : Option String) (reference : ResourceReference) :
    Looks (reference.resolve user) := by
  cases reference with
  | named name =>
      rw [resolve]
      split
      · exact .bind (.ask rfl) fun _ => .pure _
      · exact .ofExcept _
  | resolved fullName => exact .pure fullName

theorem resolveInto_looks (user : Option String) (names : SortedSet String)
    (references : List ResourceReference) :
    Looks (resolveInto user names references) := by
  induction references generalizing names with
  | nil => exact .pure names
  | cons reference rest induction =>
      exact .bind (reference.resolve_looks user) fun _ => induction _

theorem resolveAll_looks (user : Option String)
    (references : List ResourceReference) :
    Looks (resolveAll user references) :=
  .bind (resolveInto_looks user .empty references) fun _ => .pure _

end ResourceReference

end Orchestration
