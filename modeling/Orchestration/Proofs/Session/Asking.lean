import Orchestration.Proofs.Session.Naming
import Orchestration.Proofs.Session.Phases

namespace Orchestration

open Gateway (History Method Request Server)
open Orchestration.Action (Respects)

namespace Gateway

namespace Server

variable {allowed : Method → Prop} {before after : Server}

inductive Asked (allowed : Method → Prop) (server : Server) :
    Server → Prop where
  | answer {α : Type} (request : Request α)
      (permitted : allowed request.method) :
      Asked allowed server (server.answer request).2

theorem asked_lookup (server : Server) {method : Method}
    (lookup : method.isLookup) (permitted : allowed method) :
    Asked allowed server (server.log [method]) := by
  have asked : ∀ {α : Type} (request : Request α), request.method.isLookup →
      allowed request.method →
      Asked allowed server (server.log [request.method]) := by
    intro α request lookup permitted
    rw [← server.answer_lookup lookup]
    exact .answer request permitted
  cases method with
  | environment => exact asked (.environment "") rfl permitted
  | resourceFile => exact asked (.resourceFile "" "") rfl permitted
  | datasource => exact asked (.datasource "" none) rfl permitted
  | workflowInfo => exact asked (.workflowInfo "" "" "") rfl permitted
  | _ => cases lookup

theorem asked_log (server : Server) {methods : List Method}
    (permitted : ∀ method ∈ methods, method.isLookup ∧ allowed method) :
    Relation.ReflTransGen (Asked allowed) server (server.log methods) := by
  induction methods generalizing server with
  | nil => rw [log_nil]
  | cons method rest induction =>
      obtain ⟨⟨lookup, now⟩, later⟩ := List.forall_mem_cons.mp permitted
      rw [← List.singleton_append, ← log_log]
      exact .head (server.asked_lookup lookup now) (induction _ later)

/-- A server of which only lookups are asked has them in its log, and nothing
else is new. -/
theorem log_of_asked (lookups : ∀ method, allowed method → method.isLookup)
    (asked : Relation.ReflTransGen (Asked allowed) before after) :
    ∃ methods : List Method, (∀ method ∈ methods, allowed method) ∧
      after = before.log methods := by
  induction asked with
  | refl => exact ⟨[], by simp, before.log_nil.symm⟩
  | tail _ step induction =>
      obtain ⟨methods, permitted, rfl⟩ := induction
      cases step with
      | answer request now =>
          refine ⟨methods ++ [request.method], ?_, ?_⟩
          · exact List.forall_mem_append.mpr
              ⟨permitted, List.forall_mem_singleton.mpr now⟩
          · rw [answer_lookup _ (lookups _ now), log_log]

theorem submissions_answer (server : Server) {request : Request α}
    (different : request.method ≠ .saveWorkflow) :
    (server.answer request).2.submissions = server.submissions := by
  cases primed : server.primed request.method with
  | some error =>
      rw [answer_of_primed primed]
      rfl
  | none =>
      rw [answer_of_unprimed primed]
      cases request with
      | version => rfl
      | taskIdentity project workflow task =>
          rw [serve, identify]
          split <;> rfl
      | saveResource user name content => rfl
      | saveUser user =>
          rw [serve, enroll]
          split <;> rfl
      | grantProject user name description => rfl
      | saveWorkflow definition => cases different rfl
      | startWorkflow start =>
          rw [serve, launch]
          split <;> rfl
      | _ =>
          rw [serve_lookup _ rfl]
          rfl

theorem submissions_of_asked (silent : ¬ allowed .saveWorkflow)
    (asked : Relation.ReflTransGen (Asked allowed) before after) :
    after.submissions = before.submissions := by
  induction asked with
  | refl => rfl
  | tail _ step induction =>
      cases step with
      | answer request permitted =>
          rw [← induction]
          apply submissions_answer
          intro saves
          exact silent (saves ▸ permitted)

end Server

namespace History

variable {before after : Server}

theorem of_asked {allowed : Method → Prop} (history : Nonempty (History before))
    (asked : Relation.ReflTransGen (Server.Asked allowed) before after) :
    Nonempty (History after) := by
  induction asked with
  | refl => exact history
  | tail _ step induction =>
      obtain ⟨history⟩ := induction
      cases step with
      | answer request permitted => exact ⟨history.call request⟩

theorem of_advance (history : Nonempty (History before))
    (advance : before.Advance after) : Nonempty (History after) := by
  obtain ⟨history⟩ := history
  cases advance with
  | call request => exact ⟨history.call request⟩
  | prime priming => exact ⟨history.prime priming⟩

theorem firstCode_le (history : History before) {key : TaskKey} {code : Int}
    (held : before.code? (.task key) = some code) : firstCode ≤ code := by
  have issues := history.issues
  have issued := (issues.held _ code (history.unprimed_task key)).mp held
  exact ((issues.range code).mp ⟨_, issued⟩).1

end History

end Gateway

theorem Gateway.Request.method_of_prepares {request : Request α}
    (prepares : request.prepares) : request.method ≠ .saveWorkflow := by
  cases request with
  | saveWorkflow definition => cases prepares
  | _ => exact nofun

theorem Action.Respects.ofExcept_bind {step : Session → Session → Prop}
    {outcome : Except Error α} {next : α → Action β}
    (rest : ∀ value, outcome = .ok value → Respects step (next value)) :
    Respects step (Action.ofExcept outcome >>= next) := by
  intro session
  rw [Action.run_ofExcept_bind]
  cases outcome with
  | ok value => exact rest value rfl session
  | error error => exact .refl

namespace Session

variable {allowed : GatewayId → Method → Prop}
  {session before middle after : Session}

/-- Gateways answered requests, each of them methods that are allowed there. -/
def Asks (allowed : GatewayId → Method → Prop) (before after : Session) :
    Prop :=
  ∀ id, Relation.ReflTransGen (Server.Asked (allowed id)) (before.gateway id)
    (after.gateway id)

namespace Asks

theorem of_same (same : after.gateways = before.gateways) :
    Asks allowed before after := by
  intro id
  rw [gateway, gateway, same]

theorem refl (session : Session) : Asks allowed session session :=
  of_same rfl

theorem trans (first : Asks allowed before middle)
    (second : Asks allowed middle after) : Asks allowed before after :=
  fun id => (first id).trans (second id)

theorem of_run {action : Action α} (respects : Respects (Asks allowed) action)
    (session : Session) : Asks allowed session (action.run session).2 :=
  respects.run .refl .trans session

theorem bind {action : Action α} {next : α → Action β}
    (first : Asks allowed session (action.run session).2)
    (rest : ∀ value middle, action.run session = (.ok value, middle) →
      Asks allowed middle ((next value).run middle).2) :
    Asks allowed session ((action >>= next).run session).2 := by
  rw [Action.run_bind]
  generalize action.run session = reached at first rest ⊢
  obtain ⟨outcome, middle⟩ := reached
  cases outcome with
  | ok value => exact first.trans (rest value middle rfl)
  | error error => exact first

theorem withServer {id : GatewayId} {server : Server}
    (asked : Relation.ReflTransGen (Server.Asked (allowed id))
      (session.gateway id) server) :
    Asks allowed session (session.withServer id server) := by
  intro each
  rw [Session.withServer]
  rcases gateway_updateGateway_cases session id (fun _ => server) each with
    same | ⟨rfl, same⟩
  · rw [same]
  · rw [same]
    exact asked

end Asks

theorem ask_asks {id : GatewayId} {request : Request α}
    (permitted : allowed id request.method) :
    Respects (Asks allowed) (Action.ask id request) := fun _ =>
  .single (.withServer (.single (.answer request permitted)))

theorem checkVersion_asks {id : GatewayId} (permitted : allowed id .version) :
    Respects (Asks allowed) (checkVersion id) := fun session => by
  obtain ⟨supported, asked⟩ := checkVersion_run session id
  have logged : ((session.gateway id).answer .version).2 =
      (session.gateway id).log [.version] :=
    Server.answer_of_kept (fun _ => rfl) _
  rw [asked, ← logged]
  exact .single (.withServer (.single (.answer .version permitted)))

theorem asks_of_looked
    (permitted : ∀ id method, method.isLookup → allowed id method)
    (looked : Looked before after) : Asks allowed before after := by
  cases looked with
  | queried queried =>
      obtain ⟨id, methods, lookups, rfl⟩ := queried
      rw [← updateGateway_gateway before id (·.log methods)]
      refine .withServer (Server.asked_log _ fun method member => ?_)
      exact ⟨lookups method member, permitted id method (lookups method member)⟩
  | rooted id => exact .of_same rfl

theorem asks_of_looks
    (permitted : ∀ id method, method.isLookup → allowed id method)
    {action : Action α} (respects : Respects Looked action) :
    Respects (Asks allowed) action :=
  respects.mono fun _ _ => asks_of_looked permitted

@[simp] theorem gateways_withdraw (session : Session) (id : WorkflowId)
    (task : TaskId) :
    (session.withdraw id task).gateways = session.gateways := by
  rcases withdraw_cases session id task with same | ⟨previous, -, -, same⟩
  · rw [same]
  · rw [same]
    rfl

@[simp] theorem gateways_addTask (session : Session) (id : WorkflowId)
    (task : TaskId) :
    (session.addTask id task).2.gateways = session.gateways := by
  rcases addTask_cases session id task with same | ⟨free, -⟩
  · rw [same]
  · rw [addTask_of_free free]
    exact gateways_withdraw session id task

@[simp] theorem gateways_link (session : Session) (pre post : TaskId) :
    (session.link pre pre post).gateways = session.gateways := by
  rcases link_cases session pre post with ⟨id, -, -, same⟩ | ⟨-, same⟩
  · rw [same]
    rfl
  · rw [same]
    rfl

@[simp] theorem gateways_linkAll (session : Session)
    (pairs : List (TaskId × TaskId)) :
    (session.linkAll pairs).gateways = session.gateways := by
  induction pairs generalizing session with
  | nil => rfl
  | cons pair rest induction => rw [linkAll_cons, induction, gateways_link]

theorem gateways_register (session : Session) (id : WorkflowId) (task : Task) :
    (session.register id task).2.gateways = session.gateways := by
  cases taken : (session.workflow id).tasks.contains task.code with
  | true => exact congrArg (·.2.gateways) (register_of_taken taken)
  | false =>
      rw [register_of_free taken, linkBranches_eq, gateways_linkAll, enlisted,
        gateways_addTask]
      rfl

theorem asks_build (draft : TaskDraft) (session : Session)
    (permitted : ∀ id, allowed id .taskIdentity) :
    Asks allowed session (draft.build.run session).2 := by
  have asked : ∀ id, Asks allowed session (draft.asked session id) := fun id =>
    .withServer (.single (.answer _ (permitted _)))
  rw [TaskDraft.build_run]
  split
  · exact .refl session
  · split
    · exact .refl session
    · split
      · exact asked _
      · exact (asked _).trans (.of_same (gateways_register _ _ _))

theorem prepare_respects {step : Session → Session → Prop}
    {workflow : Workflow}
    (checks : Respects step (checkVersion workflow.gateway))
    (asks : ∀ request : Request Unit, request.prepares →
      Respects step (Action.ask workflow.gateway request))
    (id : WorkflowId) : Respects step (prepare workflow id) := by
  have attempts : ∀ preparations,
      Respects step (Preparation.attemptAll workflow id preparations) := by
    intro preparations
    induction preparations with
    | nil => exact .pure _
    | cons preparation rest induction =>
        refine .bind (.bind .get fun _ => ?_) fun _ => induction
        refine .ofExcept_bind fun request asked => ?_
        cases request with
        | some request => exact asks request (Preparation.request_spec asked).1
        | none => exact .pure _
  exact .bind checks fun _ => attempts _

theorem prepare_served (workflow : Workflow) (id : WorkflowId) :
    Respects Served (prepare workflow id) :=
  prepare_respects (checkVersion_respects _) (fun _ _ => .ask _ _) id

theorem prepare_asks {workflow : Workflow}
    (permitted : ∀ method, method ≠ .saveWorkflow →
      allowed workflow.gateway method) (id : WorkflowId) :
    Respects (Asks allowed) (prepare workflow id) := by
  apply prepare_respects (checkVersion_asks (permitted _ nofun))
  exact fun request prepares =>
    ask_asks (permitted _ (Request.method_of_prepares prepares))

/-- Whatever the description of the workflow asks, the rest of a submission asks
the gateway of the workflow alone. -/
theorem asks_submit {id : WorkflowId}
    (permitted : ∀ method, allowed (session.workflow id).gateway method)
    (describes : ∀ reached, SameObjects session reached →
      Asks allowed reached ((definition id).run reached).2) :
    Asks allowed session ((submit id).run session).2 := by
  rw [submit_eq, Action.run_get_bind]
  refine .bind (.of_run (prepare_asks (fun _ _ => permitted _) id) session)
    fun _ reached prepared => ?_
  have same := sameObjects_of_run (prepare_served _ id) prepared
  refine .bind (describes reached same) fun _ described _ => ?_
  refine .of_run ?_ described
  refine .bind (ask_asks (permitted _)) fun _ => .bind (.modify ?_) fun _ =>
    .pure _
  exact fun _ => .of_same rfl

end Session

namespace Operation

def isOutside : Operation → Bool
  | openGateway _ | serve _ _ => true
  | _ => false

def submitted? : Operation → Option WorkflowId
  | submit id | submitAndStart id => some id
  | _ => none

open Session (Asks)

theorem asks_perform (session : Session) {operation : Operation}
    (inside : operation.isOutside = false) :
    Asks (fun _ method => method = .saveWorkflow → operation.submitted?.isSome)
      session (operation.perform session) := by
  have lookups : ∀ (_ : GatewayId) (method : Method), method.isLookup →
      method = .saveWorkflow → operation.submitted?.isSome := by
    rintro _ _ lookup rfl
    cases lookup
  cases operation with
  | openGateway server => cases inside
  | serve id server => cases inside
  | openWorkflow draft =>
      rw [perform]
      split
      · exact .of_same rfl
      · exact .refl session
  | build draft =>
      refine Session.asks_build draft session fun _ same => ?_
      cases same
  | addTask id task => exact .of_same (Session.gateways_addTask session id task)
  | precedes task targets =>
      rw [perform, Session.precedes_eq]
      exact .of_same (Session.gateways_linkAll session _)
  | follows task targets =>
      rw [perform, Session.follows_eq]
      exact .of_same (Session.gateways_linkAll session _)
  | arrow direction left right =>
      rw [perform, Session.arrow_eq]
      exact .of_same (Session.gateways_linkAll session _)
  | definitionList id =>
      exact .of_run (Session.asks_of_looks lookups
        (Session.definitionList_looked id)) session
  | relationList id =>
      exact .of_run (Session.asks_of_looks lookups
        (Session.relationList_looked id)) session
  | definition id =>
      exact .of_run (Session.asks_of_looks lookups
        (Session.definition_looked id)) session
  | summary id =>
      exact .of_run (Session.asks_of_looks lookups
        (Session.summary_looked id)) session
  | submit id =>
      exact Session.asks_submit (fun _ _ => rfl) fun reached _ =>
        .of_run (Session.asks_of_looks lookups
          (Session.definition_looked id)) reached
  | start id =>
      refine .of_run (.bind .get fun _ => Session.ask_asks fun same => ?_) session
      cases same
  | submitAndStart id =>
      refine .bind ?_ fun _ middle _ => .of_run ?_ middle
      · exact Session.asks_submit (fun _ _ => rfl) fun reached _ =>
          .of_run (Session.asks_of_looks lookups
            (Session.definition_looked id)) reached
      · refine .bind (.bind .get fun _ => Session.ask_asks fun same => ?_)
          fun _ => .pure _
        cases same
  | _ => exact .of_same rfl

end Operation

/-- In a run on gateways in memory, every gateway has been asked and prepared
since it was new, and nothing else. -/
theorem Run.histories (run : Run session)
    (regular : run.All fun before operation => operation.Regular before)
    (id : GatewayId) : Nonempty (History (session.gateway id)) := by
  induction run with
  | start now => exact ⟨.start⟩
  | @step before run operation possible induction =>
      obtain ⟨earlier, now⟩ := regular
      have history := induction earlier
      cases outside : operation.isOutside with
      | false => exact history.elim fun history =>
          History.of_asked ⟨history⟩ (operation.asks_perform before outside id)
      | true =>
          cases operation with
          | openGateway server =>
              by_cases new : id = (before.addGateway server).1
              · subst new
                rw [Operation.perform, Session.gateway_addGateway_self]
                exact now
              · rw [Operation.perform, Session.gateway_addGateway_other new]
                exact history
          | serve other server =>
              rcases Session.gateway_updateGateway_cases before other
                (fun _ => server) id with same | ⟨rfl, same⟩
              · rw [Operation.perform, same]
                exact history
              · rw [Operation.perform, same]
                exact History.of_advance history now
          | _ => cases outside

theorem TaskDraft.firstCode_le_reply {id : WorkflowId} (draft : TaskDraft)
    (history : History (session.gateway (session.workflow id).gateway))
    {identity : TaskIdentity}
    (replied : (draft.reply session id).1 = .ok identity) :
    Gateway.firstCode ≤ identity.code := by
  let workflow := session.workflow id
  have held : (draft.reply session id).2.code?
      (.task ⟨workflow.project, workflow.name, draft.name⟩) =
        some identity.code := by
    rw [Server.code?, reply, Server.lookup_of_identified replied rfl]
    rfl
  exact (history.call _).firstCode_le held

theorem Run.firstCode_le (run : Run session)
    (regular : run.All fun before operation => operation.Regular before)
    {task : TaskId} (present : session.hasTask task) :
    Gateway.firstCode ≤ (session.task task).code := by
  induction run with
  | start now => cases present
  | @step before run operation possible induction =>
      obtain ⟨earlier, -⟩ := regular
      cases isBuild : operation.isBuild with
      | false =>
          have keeps := @Operation.keeps_perform before operation isBuild
          rw [keeps.hasTask] at present
          rw [keeps.field Task.code fun _ => rfl]
          exact induction earlier present
      | true =>
          obtain ⟨draft, rfl⟩ := Operation.isBuild_iff.mp isBuild
          rw [Operation.perform] at present ⊢
          rcases built : draft.build.run before with ⟨error | new, after⟩
          · have stays := TaskDraft.stays_of_failed built
            rw [built, stays.hasTask] at present
            rw [stays.toKeeps.field Task.code fun _ => rfl]
            exact induction earlier present
          · obtain ⟨id, kind, identity, found, -, replied, -, -, adds⟩ :=
              TaskDraft.build_ok built
            have adds := adds
              (run.consistent.hasWorkflow_of_workflowIn possible found)
            rw [built] at present
            rcases (adds.hasTask task).mp present with old | rfl
            · rw [adds.old_field Task.code (fun _ => rfl) old]
              exact induction earlier old
            · rw [adds.new_field Task.code fun _ => rfl]
              obtain ⟨history⟩ := run.histories earlier
                (before.workflow id).gateway
              exact draft.firstCode_le_reply history replied

end Orchestration
