import Mathlib.Logic.Relation
import Orchestration.Session.State

namespace Orchestration

open Gateway (Exchange Server)

namespace Action

theorem run_bind (action : Action α) (next : α → Action β)
    (session : Session) :
    (action >>= next).run session =
      match action.run session with
      | (.ok value, middle) => (next value).run middle
      | (.error error, middle) => (.error error, middle) := by
  change (action >>= next) session = _
  simp only [bind, ExceptT.bind, ExceptT.mk, StateT.bind, run]
  rcases action session with ⟨result, middle⟩
  cases result <;> rfl

theorem run_get_bind (next : Session → Action α) (session : Session) :
    (get >>= next).run session = (next session).run session := rfl

theorem run_ofExcept_bind (outcome : Except Error α) (next : α → Action β)
    (session : Session) :
    (ofExcept outcome >>= next).run session =
      match outcome with
      | .ok value => (next value).run session
      | .error error => (.error error, session) := by
  rw [run_bind]
  cases outcome <;> rfl

theorem bind_ok {action : Action α} {next : α → Action β}
    {session after : Session} {result : β}
    (completed : (action >>= next).run session = (.ok result, after)) :
    ∃ value middle, action.run session = (.ok value, middle) ∧
      (next value).run middle = (.ok result, after) := by
  rw [run_bind] at completed
  rcases first : action.run session with ⟨outcome, middle⟩
  rw [first] at completed
  cases outcome with
  | ok value => exact ⟨value, middle, rfl, completed⟩
  | error error => simp at completed

theorem pure_ok {value result : α} {session after : Session}
    (completed : (pure value : Action α).run session = (.ok result, after)) :
    value = result ∧ session = after := by
  have same : (Except.ok value, session) = (Except.ok result, after) :=
    completed
  simpa using same

theorem get_ok {session read after : Session}
    (completed : (get : Action Session).run session = (.ok read, after)) :
    session = read ∧ session = after := by
  have same : (Except.ok session, session) =
      (Except.ok read, after) := completed
  simpa using same

theorem ofExcept_ok {outcome : Except Error α} {session after : Session}
    {result : α}
    (completed : (ofExcept outcome).run session = (.ok result, after)) :
    outcome = .ok result ∧ session = after := by
  have same : (outcome, session) = (.ok result, after) := completed
  simpa using same

/-- An action takes the session on by steps. -/
def Respects (step : Session → Session → Prop) (action : Action α) : Prop :=
  ∀ session, Relation.ReflTransGen step session (action.run session).2

namespace Respects

variable {step : Session → Session → Prop}

theorem pure (value : α) : Respects step (pure value : Action α) :=
  fun _ => .refl

theorem get : Respects step (get : Action Session) := fun _ => .refl

theorem ofExcept (result : Except Error α) :
    Respects step (Action.ofExcept result) := fun _ => .refl

theorem modify {update : Session → Session}
    (steps : ∀ session, step session (update session)) :
    Respects step (modify update : Action Unit) :=
  fun session => .single (steps session)

theorem bind {action : Action α} {next : α → Action β}
    (first : Respects step action)
    (rest : ∀ value, Respects step (next value)) :
    Respects step (action >>= next) := by
  intro session
  have begun := first session
  rw [run_bind]
  generalize action.run session = reached at begun ⊢
  obtain ⟨outcome, middle⟩ := reached
  cases outcome with
  | ok value => exact begun.trans (rest value middle)
  | error error => exact begun

theorem mono {step other : Session → Session → Prop} {action : Action α}
    (covers : ∀ before after, step before after → other before after)
    (respects : Respects step action) : Respects other action :=
  fun session => Relation.ReflTransGen.mono covers _ _ (respects session)

theorem run {action : Action α} (respects : Respects step action)
    (refl : ∀ session, step session session)
    (trans : ∀ {before middle after}, step before middle →
      step middle after → step before after) (session : Session) :
    step session (action.run session).2 := by
  have steps := respects session
  generalize (action.run session).2 = after at steps
  induction steps with
  | refl => exact refl session
  | tail _ last induction => exact trans induction last

end Respects

end Action

namespace Session

def Served (before after : Session) : Prop :=
  ∃ id server, after = before.updateGateway id fun _ => server

/-- Workflows, tasks and scopes are the same. -/
structure SameObjects (before after : Session) : Prop where
  workflows : after.workflows = before.workflows
  tasks : after.tasks = before.tasks
  scopes : after.scopes = before.scopes

theorem sameObjects_of_served {before after : Session}
    (served : Relation.ReflTransGen Served before after) :
    SameObjects before after := by
  induction served with
  | refl => exact ⟨rfl, rfl, rfl⟩
  | tail _ step same =>
      obtain ⟨id, server, rfl⟩ := step
      exact ⟨same.workflows, same.tasks, same.scopes⟩

theorem sameObjects_of_run {action : Action α}
    (respects : Action.Respects Served action) {before after : Session}
    {outcome : Except Error α}
    (run : action.run before = (outcome, after)) :
    SameObjects before after := by
  have served := respects before
  rw [run] at served
  exact sameObjects_of_served served

theorem SameObjects.trans {before middle after : Session}
    (first : SameObjects before middle) (second : SameObjects middle after) :
    SameObjects before after :=
  ⟨second.workflows.trans first.workflows, second.tasks.trans first.tasks,
    second.scopes.trans first.scopes⟩

theorem SameObjects.workflow {before after : Session}
    (same : SameObjects before after) (id : WorkflowId) :
    after.workflow id = before.workflow id := by
  rw [Session.workflow, Session.workflow, same.workflows]

theorem SameObjects.task {before after : Session}
    (same : SameObjects before after) (id : TaskId) :
    after.task id = before.task id := by
  rw [Session.task, Session.task, same.tasks]

end Session

namespace Action.Respects

theorem exchange (id : GatewayId) (exchange : Exchange α) :
    Respects Session.Served (Action.exchange id exchange) :=
  fun session => .single ⟨id, (exchange.run (session.gateway id)).2, rfl⟩

theorem ask (id : GatewayId) (request : Gateway.Request α) :
    Respects Session.Served (Action.ask id request) :=
  exchange id (Exchange.ask request)

end Action.Respects

end Orchestration
