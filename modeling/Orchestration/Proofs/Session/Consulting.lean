import Orchestration.Proofs.Session.Asking

namespace Orchestration

open Gateway (Exchange Method Request Server)

/-! Descriptions as functions of the session. What comes out does not depend on
what was looked up before, and where something is looked up can be told from the
tasks that are described. -/

namespace Gateway.Exchange

def Asks (allowed : Method → Prop) (exchange : Exchange α) : Prop :=
  ∀ server,
    Relation.ReflTransGen (Server.Asked allowed) server (exchange.run server).2

namespace Asks

variable {allowed : Method → Prop}

theorem pure (value : α) : Asks allowed (pure value : Exchange α) :=
  fun _ => .refl

theorem ofExcept (result : Except Orchestration.Error α) :
    Asks allowed (Exchange.ofExcept result) := fun _ => .refl

theorem ask {request : Request α} (permitted : allowed request.method) :
    Asks allowed (Exchange.ask request) :=
  fun _ => .single (.answer request permitted)

theorem bind {exchange : Exchange α} {next : α → Exchange β}
    (first : Asks allowed exchange)
    (rest : ∀ value, Asks allowed (next value)) :
    Asks allowed (exchange >>= next) := by
  intro server
  have begun := first server
  rw [run_bind]
  generalize exchange.run server = reached at begun ⊢
  obtain ⟨outcome, middle⟩ := reached
  cases outcome with
  | ok value => exact begun.trans (rest value middle)
  | error error => exact begun

end Asks

end Gateway.Exchange

namespace ResourceReference

open Gateway.Exchange (Asks)

variable {allowed : Method → Prop}

theorem resolve_asks (user : Option String) {reference : ResourceReference}
    (permitted : ∀ name, reference = .named name → allowed .resourceFile) :
    Asks allowed (reference.resolve user) := by
  cases reference with
  | named name =>
      rw [resolve]
      split
      · exact .bind (.ask (permitted name rfl)) fun _ => .pure _
      · exact .ofExcept _
  | resolved fullName => exact .pure fullName

theorem resolveInto_asks (user : Option String) (names : SortedSet String)
    {references : List ResourceReference}
    (permitted : ∀ name, .named name ∈ references → allowed .resourceFile) :
    Asks allowed (resolveInto user names references) := by
  induction references generalizing names with
  | nil => exact .pure names
  | cons reference rest induction =>
      refine .bind (resolve_asks user ?_) fun _ => induction _ ?_
      · rintro name rfl
        exact permitted name List.mem_cons_self
      · exact fun name member => permitted name (List.mem_cons_of_mem _ member)

end ResourceReference

namespace Session

/-- The same but for what was called at gateways. -/
structure SameUnlogged (before after : Session) : Prop
    extends SameObjects before after where
  unlogged : ∀ id, (after.gateway id).unlogged = (before.gateway id).unlogged

theorem SameUnlogged.refl (session : Session) :
    SameUnlogged session session :=
  ⟨⟨rfl, rfl, rfl⟩, fun _ => rfl⟩

namespace SameObjects

variable {before after : Session}

theorem owner (same : SameObjects before after) (id : TaskId) :
    after.owner id = before.owner id := by
  rw [Session.owner, Session.owner, same.task]
  congr 1
  funext workflow
  exact same.isAlive workflow

theorem workerGroup (same : SameObjects before after) (id : TaskId) :
    after.workerGroup id = before.workerGroup id := by
  simp only [Session.workerGroup, same.task, same.owner, same.workflow]

end SameObjects

end Session

namespace Action

open Session (Asks SameObjects SameUnlogged)

def outcome (action : Action α) (session : Session) : Except Error α :=
  (action.run session).1

theorem outcome_read (next : Session → Action α) (session : Session) :
    (get >>= next).outcome session = (next session).outcome session := rfl

/-- Wherever lookups have led from a session, the action does no more than look
up what is allowed, and what comes out is the same. -/
structure Settled (origin : Session) (allowed : GatewayId → Method → Prop)
    (action : Action α) : Prop where
  same : ∀ session, SameUnlogged origin session →
    SameUnlogged origin (action.run session).2
  asks : ∀ session, SameUnlogged origin session →
    Asks allowed session (action.run session).2
  outcome : ∀ session, SameUnlogged origin session →
    action.outcome session = action.outcome origin

namespace Settled

variable {origin : Session} {allowed : GatewayId → Method → Prop}

theorem pure (value : α) : Settled origin allowed (pure value : Action α) :=
  ⟨fun _ same => same, fun _ _ => .refl _, fun _ _ => rfl⟩

theorem ofExcept (result : Except Error α) :
    Settled origin allowed (Action.ofExcept result) :=
  ⟨fun _ same => same, fun _ _ => .refl _, fun _ _ => rfl⟩

theorem read {next : Session → Action α}
    (same : ∀ {session}, SameObjects origin session →
      next session = next origin)
    (settled : Settled origin allowed (next origin)) :
    Settled origin allowed (get >>= next) := by
  refine ⟨fun session reached => ?_, fun session reached => ?_,
    fun session reached => ?_⟩
  · rw [run_get_bind, same reached.toSameObjects]
    exact settled.same session reached
  · rw [run_get_bind, same reached.toSameObjects]
    exact settled.asks session reached
  · rw [Action.outcome, run_get_bind, same reached.toSameObjects]
    exact settled.outcome session reached

theorem bind {action : Action α} {next : α → Action β}
    (first : Settled origin allowed action)
    (rest : ∀ value, Settled origin allowed (next value)) :
    Settled origin allowed (action >>= next) where
  same session reached := by
    have middle := first.same session reached
    rw [run_bind]
    generalize action.run session = ran at middle ⊢
    obtain ⟨outcome, after⟩ := ran
    cases outcome with
    | ok value => exact (rest value).same after middle
    | error error => exact middle
  asks session reached := by
    refine .bind (first.asks session reached) fun value middle ran => ?_
    have same := first.same session reached
    rw [ran] at same
    exact (rest value).asks middle same
  outcome session reached := by
    -- The rest starts from different sessions, but both can be reached from the
    -- origin by lookups.
    have here := first.same session reached
    have there := first.same origin (.refl origin)
    have result := first.outcome session reached
    rw [Action.outcome, Action.outcome, run_bind, run_bind]
    rw [Action.outcome, Action.outcome] at result
    generalize action.run session = ran at here result ⊢
    generalize action.run origin = otherRan at there result ⊢
    obtain ⟨outcome, after⟩ := ran
    obtain ⟨otherOutcome, otherAfter⟩ := otherRan
    cases result
    cases outcome with
    | ok value =>
        exact ((rest value).outcome after here).trans
          ((rest value).outcome otherAfter there).symm
    | error error => rfl

theorem exchange (id : GatewayId) {exchange : Exchange α}
    (looks : exchange.Looks)
    (asks : Gateway.Exchange.Asks (allowed id) exchange) :
    Settled origin allowed (Action.exchange id exchange) where
  same session reached := by
    refine ⟨reached.toSameObjects.trans ⟨rfl, rfl, rfl⟩, fun each => ?_⟩
    rw [← reached.unlogged]
    rcases Session.gateway_updateGateway_cases session id
      (fun _ => (exchange.run (session.gateway id)).2) each with
      same | ⟨rfl, same⟩
    · exact congrArg Server.unlogged same
    · exact (congrArg Server.unlogged same).trans (looks.unlogged_run _)
  asks session _ := .withServer (asks (session.gateway id))
  outcome session reached := looks.agrees _ _ (reached.unlogged id)

theorem ask (id : GatewayId) {request : Request α}
    (lookup : request.method.isLookup)
    (permitted : allowed id request.method) :
    Settled origin allowed (Action.ask id request) :=
  exchange id (.ask lookup) (.ask permitted)

theorem outcome_bind {action : Action α} {next : α → Action β}
    (first : Settled origin allowed action)
    (rest : ∀ value, Settled origin allowed (next value)) :
    (action >>= next).outcome origin =
      action.outcome origin >>= fun value => (next value).outcome origin := by
  have there := first.same origin (.refl origin)
  simp only [Action.outcome]
  rw [run_bind]
  generalize action.run origin = ran at there ⊢
  obtain ⟨outcome, after⟩ := ran
  cases outcome with
  | ok value => exact (rest value).outcome after there
  | error error => rfl

end Settled

end Action

namespace Session

open Orchestration.Action (Settled)

/-- Where a description of the task may look something up, and by which
method. -/
inductive Consults (session : Session) (task : TaskId) :
    GatewayId → Method → Prop where
  | resource {name : String}
      (named : .named name ∈ (session.task task).resources) :
      Consults session task (session.task task).gateway .resourceFile
  | environment {name : String}
      (given : (session.task task).options.environment = some name) :
      Consults session task (session.task task).gateway .environment
  | datasource {statement : Statement} {owner : WorkflowId}
      (kind : (session.task task).kind = .sql statement)
      (owned : session.owner task = some owner) :
      Consults session task (session.workflow owner).gateway .datasource
  | workflowInfo {name : String} {owner : WorkflowId}
      (kind : (session.task task).kind = .subWorkflow name)
      (owned : session.owner task = some owner) :
      Consults session task (session.workflow owner).gateway .workflowInfo

variable {session : Session} {allowed : GatewayId → Method → Prop}
  {task : TaskId}

theorem requireOwner_settled {kind : String} {next : Workflow → Action α}
    (settled : ∀ owner, session.owner task = some owner →
      Settled session allowed (next (session.workflow owner))) :
    Settled session allowed (requireOwner task kind >>= next) := by
  rw [requireOwner_bind]
  refine .read (fun same => by simp only [same.owner, same.workflow]) ?_
  cases owned : session.owner task with
  | some owner => exact settled owner owned
  | none => exact .ofExcept _

section Described

variable (covers : ∀ id method, session.Consults task id method →
  allowed id method)
include covers

theorem resourceList_settled :
    Settled session allowed (resourceList task) := by
  refine .read (fun same => by
    simp only [same.task, same.owner, same.workflow]) ?_
  refine .exchange _ (ResourceReference.resolveAll_looks _ _) ?_
  refine .bind (ResourceReference.resolveInto_asks _ _ ?_) fun _ => .pure _
  exact fun name named => covers _ _ (.resource named)

theorem standardField_settled (field : StandardField) :
    Settled session allowed (standardField task field) := by
  refine .read (fun same => by rw [same.task]) ?_
  cases field with
  | localParams => exact .bind (.ofExcept _) fun _ => .pure _
  | resourceList =>
      exact .bind (resourceList_settled covers) fun _ => .pure _
  | dependence => exact .pure _
  | waitStartTimeout => exact .pure _
  | conditionResult => exact .pure _

theorem standardFields_settled (fields : List StandardField) :
    Settled session allowed (standardFields task fields) := by
  induction fields with
  | nil => exact .pure _
  | cons field rest induction =>
      exact .bind (standardField_settled covers field) fun _ =>
        .bind induction fun _ => .pure _

theorem kindFields_settled : Settled session allowed (kindFields task) := by
  refine .read (fun same => by simp only [same.task]) ?_
  cases kind : (session.task task).kind with
  | shell body => exact .pure _
  | python body => exact .pure _
  | http call => exact .ofExcept _
  | sql statement =>
      refine requireOwner_settled fun owner owned => ?_
      exact .bind (.ask _ rfl (covers _ _ (.datasource kind owned))) fun _ =>
        .pure _
  | subWorkflow name =>
      refine requireOwner_settled fun owner owned => ?_
      exact .bind (.ask _ rfl (covers _ _ (.workflowInfo kind owned))) fun _ =>
        .pure _
  | switch choice => exact .pure _
  | custom type parameters => exact .pure _

theorem taskParameters_settled :
    Settled session allowed (taskParameters task) :=
  .read (fun same => by rw [same.task])
    (.bind (standardFields_settled covers _) fun _ =>
      .bind (kindFields_settled covers) fun _ => .pure _)

theorem environmentCode_settled :
    Settled session allowed (environmentCode task) := by
  refine .read (fun same => by rw [same.task]) ?_
  dsimp only
  split
  next name given =>
    exact .bind (.ask _ rfl (covers _ _ (.environment given))) fun _ => .pure _
  next => exact .pure _

theorem taskDefinition_settled :
    Settled session allowed (taskDefinition task) :=
  .bind (taskParameters_settled covers) fun _ =>
    .bind (environmentCode_settled covers) fun _ =>
      .read (fun same => by simp only [same.task, same.workerGroup]) (.pure _)

end Described

theorem taskDefinitions_settled {tasks : List TaskId}
    (covers : ∀ task ∈ tasks, ∀ id method, session.Consults task id method →
      allowed id method) :
    Settled session allowed (taskDefinitions tasks) := by
  induction tasks with
  | nil => exact .pure _
  | cons task rest induction =>
      obtain ⟨first, others⟩ := List.forall_mem_cons.mp covers
      exact .bind (taskDefinition_settled first) fun _ =>
        .bind (induction others) fun _ => .pure _

theorem definitionList_settled {id : WorkflowId}
    (covers : ∀ task ∈ session.taskIds id, ∀ gateway method,
      session.Consults task gateway method → allowed gateway method) :
    Settled session allowed (definitionList id) := by
  refine .read (fun same => by
    simp only [same.workflow, taskIds]) ?_
  split
  · exact .pure _
  · exact .bind (taskDefinitions_settled covers) fun _ => .pure _

theorem definition_asks {id : WorkflowId}
    (covers : ∀ task ∈ session.taskIds id, ∀ gateway method,
      session.Consults task gateway method → allowed gateway method) :
    Asks allowed session ((definition id).run session).2 := by
  refine .bind ((definitionList_settled covers).asks session (.refl session))
    fun _ middle _ => .bind ?_ fun _ related _ => .refl related
  rw [relationList_run]
  split
  · exact .refl middle
  · exact .of_same rfl

end Session

inductive Task.Resolves (task : Task) : Method → Prop where
  | resource {name : String} (named : .named name ∈ task.resources) :
      Resolves task .resourceFile
  | environment {name : String}
      (given : task.options.environment = some name) :
      Resolves task .environment

namespace Session

variable {session : Session} {id : WorkflowId} {task : TaskId}

/-- A task of a live workflow consults the gateway of that workflow, and the one
that it was built with. -/
theorem Consults.cases (consistent : session.Consistent)
    (alive : session.isAlive id) (registered : session.Registered id task)
    {gateway : GatewayId} {method : Method}
    (consults : session.Consults task gateway method) :
    gateway = (session.workflow id).gateway ∨
      (session.task task).gateway = gateway ∧
        (session.task task).Resolves method := by
  have owned := (consistent.owner_iff_registered alive).mpr registered
  cases consults with
  | resource named => exact .inr ⟨rfl, .resource named⟩
  | environment given => exact .inr ⟨rfl, .environment given⟩
  | datasource kind other | workflowInfo kind other =>
      rw [owned] at other
      cases other
      exact .inl rfl

theorem Consults.of_same {before after : Session}
    (same : SameObjects before after) {gateway : GatewayId} {method : Method}
    (consults : after.Consults task gateway method) :
    before.Consults task gateway method := by
  cases consults with
  | resource named =>
      rw [same.task] at named ⊢
      exact .resource named
  | environment given =>
      rw [same.task] at given ⊢
      exact .environment given
  | datasource kind owned =>
      rw [same.task] at kind
      rw [same.owner] at owned
      rw [same.workflow]
      exact .datasource kind owned
  | workflowInfo kind owned =>
      rw [same.task] at kind
      rw [same.owner] at owned
      rw [same.workflow]
      exact .workflowInfo kind owned

theorem Consults.isLookup {gateway : GatewayId} {method : Method}
    (consults : session.Consults task gateway method) : method.isLookup := by
  cases consults <;> rfl

theorem Consistent.registered_of_mem (consistent : session.Consistent)
    (alive : session.isAlive id) (member : task ∈ session.taskIds id) :
    session.Registered id task := by
  obtain ⟨code, listed⟩ := mem_taskIds_iff.mp member
  rw [Registered, (consistent.listed id code task alive listed).1]
  exact listed

theorem Consistent.mem_taskIds_iff (consistent : session.Consistent)
    (alive : session.isAlive id) {task : TaskId} :
    task ∈ session.taskIds id ↔ session.Registered id task :=
  ⟨consistent.registered_of_mem alive,
    fun registered => Session.mem_taskIds_iff.mpr ⟨_, registered⟩⟩

/-- A workflow that is described or submitted leaves no more at a gateway of
others than lookups of tasks that were built with it, and nothing at all if none
of its tasks has anything to look up there. -/
theorem consultation (run : Run session) (alive : session.isAlive id)
    {other : GatewayId} (elsewhere : other ≠ (session.workflow id).gateway)
    {operation : Operation}
    (writes : operation = .definition id ∨ operation = .submit id) :
    (∃ methods : List Method,
      (∀ method ∈ methods, ∃ task, session.Registered id task ∧
        (session.task task).gateway = other ∧
        (session.task task).Resolves method) ∧
      (operation.perform session).gateway other =
        (session.gateway other).log methods) ∧
      ((∀ task, session.Registered id task →
          (session.task task).gateway = other →
          ∀ method, ¬ (session.task task).Resolves method) →
        (operation.perform session).gateway other =
          session.gateway other) := by
  let allowed : GatewayId → Method → Prop := fun gateway method =>
    gateway = (session.workflow id).gateway ∨
      method.isLookup ∧ ∃ task, session.Registered id task ∧
        (session.task task).gateway = gateway ∧
        (session.task task).Resolves method
  have covers : ∀ task ∈ session.taskIds id, ∀ gateway method,
      session.Consults task gateway method → allowed gateway method := by
    intro task member gateway method consults
    have registered := run.consistent.registered_of_mem alive member
    refine (consults.cases run.consistent alive registered).imp_right ?_
    exact fun resolves => ⟨consults.isLookup, task, registered, resolves⟩
  have asks : Asks allowed session (operation.perform session) := by
    rcases writes with rfl | rfl
    · exact definition_asks covers
    · refine asks_submit (fun _ => .inl rfl) fun reached same =>
        definition_asks fun task member gateway method consults => ?_
      rw [taskIds, same.workflow] at member
      exact covers task member gateway method (consults.of_same same)
  have lookups : ∀ method, allowed other method → method.isLookup :=
    fun method permitted => (permitted.resolve_left elsewhere).1
  obtain ⟨methods, permitted, logged⟩ :=
    Server.log_of_asked lookups (asks other)
  have resolved : ∀ method ∈ methods, ∃ task, session.Registered id task ∧
      (session.task task).gateway = other ∧
      (session.task task).Resolves method := fun method member =>
    ((permitted method member).resolve_left elsewhere).2
  refine ⟨⟨methods, resolved, logged⟩, fun none => ?_⟩
  have empty : methods = [] := by
    apply List.eq_nil_iff_forall_not_mem.mpr
    intro method member
    obtain ⟨task, registered, built, resolves⟩ := resolved method member
    exact none task registered built method resolves
  rw [logged, empty, Server.log_nil]

end Session

/-- A run in which a task with an environment moves to a workflow at another
gateway. -/
def straying : List Operation :=
  let server := Server.withEnvironment {} "prod" 42
  [.openGateway server, .openGateway server,
    .openWorkflow { name := "first", gateway := ⟨0⟩ },
    .openWorkflow { name := "second", gateway := ⟨1⟩ },
    .build {
      name := "a", kind := .shell "", workflow := some ⟨0⟩
      options := { environment := some "prod" } },
    .addTask ⟨1⟩ ⟨0⟩]

def strayed : Session := Operation.performAll { now := "" } straying

def Run.toStrayed : Run strayed :=
  (Run.start "").extend straying (by decide +kernel)

namespace Session

theorem consultation_strayed :
    strayed.isAlive ⟨0⟩ = true ∧ strayed.isAlive ⟨1⟩ = true ∧
      (⟨1⟩ : GatewayId) ≠ (strayed.workflow ⟨0⟩).gateway ∧
      (⟨0⟩ : GatewayId) ≠ (strayed.workflow ⟨1⟩).gateway ∧
      ((Operation.definition ⟨0⟩).perform strayed).gateway ⟨1⟩ =
        strayed.gateway ⟨1⟩ ∧
      ∃ methods : List Method,
        (∀ method ∈ methods, ∃ task, strayed.Registered ⟨1⟩ task ∧
          (strayed.task task).gateway = ⟨0⟩ ∧
          (strayed.task task).Resolves method) ∧
        ((Operation.submit ⟨1⟩).perform strayed).gateway ⟨0⟩ =
          (strayed.gateway ⟨0⟩).log methods := by
  have left : strayed.isAlive ⟨0⟩ = true := by decide +kernel
  have alive : strayed.isAlive ⟨1⟩ = true := by decide +kernel
  have apart : (⟨1⟩ : GatewayId) ≠ (strayed.workflow ⟨0⟩).gateway := by
    decide +kernel
  have elsewhere : (⟨0⟩ : GatewayId) ≠ (strayed.workflow ⟨1⟩).gateway := by
    decide +kernel
  have empty : strayed.taskIds ⟨0⟩ = [] := by decide +kernel
  refine ⟨left, alive, apart, elsewhere, ?_, ?_⟩
  · apply (consultation Run.toStrayed left apart (.inl rfl)).2
    intro task registered
    have member : task ∈ strayed.taskIds ⟨0⟩ :=
      mem_taskIds_iff.mpr ⟨_, registered⟩
    rw [empty] at member
    cases member
  · exact (consultation Run.toStrayed alive elsewhere (.inr rfl)).1

/-- A workflow that talks to a gateway which is not its own. -/
theorem consultation_elsewhere :
    (Run.toStrayed.All fun before operation => operation.Regular before) ∧
      strayed.isAlive ⟨1⟩ = true ∧
      (strayed.workflow ⟨1⟩).gateway = ⟨1⟩ ∧
      ((Operation.definition ⟨1⟩).perform strayed).gateway ⟨0⟩ ≠
        strayed.gateway ⟨0⟩ ∧
      (((Operation.definition ⟨1⟩).perform strayed).gateway ⟨0⟩).calls =
        [.taskIdentity, .environment] ∧
      (((Operation.submit ⟨1⟩).perform strayed).gateway ⟨0⟩).calls =
        [.taskIdentity, .environment] := by
  refine ⟨⟨⟨⟨⟨⟨⟨trivial, ?_⟩, ?_⟩, ?_⟩, ?_⟩, trivial⟩, trivial⟩,
    by decide +kernel, by decide +kernel, by decide +kernel,
    by decide +kernel, by decide +kernel⟩
  · exact ⟨.prime .start (.environment "prod" 42)⟩
  · exact ⟨.prime .start (.environment "prod" 42)⟩
  · change hasGateway _ _ = true
    decide +kernel
  · change hasGateway _ _ = true
    decide +kernel

end Session

end Orchestration
