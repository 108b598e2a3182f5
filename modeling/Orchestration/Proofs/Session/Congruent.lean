import Orchestration.Proofs.Session.Alike

namespace Orchestration

open Gateway (Exchange Method Server)

namespace Action

structure Congruent (action : Action α) : Prop where
  result : ∀ {session other : Session}, session.Alike other →
    (action.run session).1 = (action.run other).1
  after : ∀ {session other : Session}, session.Alike other →
    (action.run session).2.Alike (action.run other).2

namespace Congruent

theorem pure (value : α) : Congruent (pure value : Action α) :=
  ⟨fun _ => rfl, id⟩

theorem ofExcept (result : Except Error α) :
    Congruent (Action.ofExcept result) :=
  ⟨fun _ => rfl, id⟩

theorem read {next : Session → Action α}
    (same : ∀ {session other : Session}, session.Alike other →
      next session = next other)
    (each : ∀ session, Congruent (next session)) :
    Congruent (get >>= next) where
  result {session other} alike := by
    rw [run_get_bind, run_get_bind, same alike]
    exact (each other).result alike
  after {session other} alike := by
    rw [run_get_bind, run_get_bind, same alike]
    exact (each other).after alike

theorem modify {update : Session → Session}
    (congruent : ∀ {session other : Session}, session.Alike other →
      (update session).Alike (update other)) :
    Congruent (modify update : Action Unit) :=
  ⟨fun _ => rfl, congruent⟩

theorem bind {action : Action α} {next : α → Action β}
    (first : Congruent action) (rest : ∀ value, Congruent (next value)) :
    Congruent (action >>= next) := by
  suffices ∀ {session other : Session}, session.Alike other →
      ((action >>= next).run session).1 = ((action >>= next).run other).1 ∧
        ((action >>= next).run session).2.Alike
          ((action >>= next).run other).2 from
    ⟨fun alike => (this alike).1, fun alike => (this alike).2⟩
  intro session other alike
  have result := first.result alike
  have after := first.after alike
  rw [run_bind, run_bind]
  generalize action.run session = reached at result after ⊢
  generalize action.run other = otherReached at result after ⊢
  obtain ⟨outcome, middle⟩ := reached
  obtain ⟨otherOutcome, otherMiddle⟩ := otherReached
  cases result
  cases outcome with
  | error error => exact ⟨rfl, after⟩
  | ok value => exact ⟨(rest value).result after, (rest value).after after⟩

theorem ask (id : GatewayId) (request : Gateway.Request α) :
    Congruent (Action.ask id request) where
  result alike :=
    congrArg (Except.mapError Error.gateway)
      (Server.answer_agrees (alike.gateway id) request).1
  after alike :=
    alike.updateGateway id
      (Server.answer_agrees (alike.gateway id) request).2

end Congruent

end Action

namespace Session

def Queried (before after : Session) : Prop :=
  ∃ id, ∃ methods : List Method, (∀ method ∈ methods, method.isLookup) ∧
    after = before.updateGateway id (·.log methods)

theorem Queried.served {before after : Session}
    (queried : Queried before after) : Served before after := by
  obtain ⟨id, methods, -, same⟩ := queried
  refine ⟨id, (before.gateway id).log methods, ?_⟩
  rw [same, updateGateway_gateway before id fun server => server.log methods]

theorem Alike.queried {session before after : Session}
    (alike : session.Alike before) (queried : Queried before after) :
    session.Alike after := by
  obtain ⟨id, methods, -, rfl⟩ := queried
  exact alike.log_right id methods

end Session

namespace Action

open Session (Queried Served)

/-- The action looks things up at gateways and does nothing else. -/
structure Describes (action : Action α) : Prop where
  queries : Respects Queried action
  congruent : Congruent action

namespace Describes

theorem respects {action : Action α} (describes : Describes action) :
    Respects Served action :=
  describes.queries.mono fun _ _ => Queried.served

theorem pure (value : α) : Describes (pure value : Action α) :=
  ⟨.pure value, .pure value⟩

theorem ofExcept (result : Except Error α) :
    Describes (Action.ofExcept result) :=
  ⟨.ofExcept result, .ofExcept result⟩

theorem read {next : Session → Action α}
    (same : ∀ {session other : Session}, session.Alike other →
      next session = next other)
    (each : ∀ session, Describes (next session)) :
    Describes (get >>= next) :=
  ⟨.bind .get fun session => (each session).queries,
    .read same fun session => (each session).congruent⟩

theorem bind {action : Action α} {next : α → Action β}
    (first : Describes action) (rest : ∀ value, Describes (next value)) :
    Describes (action >>= next) :=
  ⟨.bind first.queries fun value => (rest value).queries,
    .bind first.congruent fun value => (rest value).congruent⟩

theorem exchange (id : GatewayId) {exchange : Exchange α}
    (looks : exchange.Looks) : Describes (Action.exchange id exchange) := by
  refine ⟨fun session => ?_, fun alike => ?_, fun {session other} alike => ?_⟩
  · obtain ⟨methods, lookups, logged⟩ := looks.log (session.gateway id)
    refine .single ⟨id, methods, lookups, ?_⟩
    rw [← Session.updateGateway_gateway session id fun server =>
      server.log methods, ← logged]
    rfl
  · exact looks.agrees _ _ (alike.gateway id)
  · apply alike.updateGateway id
    have left := looks.unlogged_run (session.gateway id)
    have right := looks.unlogged_run (other.gateway id)
    exact left.trans ((alike.gateway id).trans right.symm)

theorem ask (id : GatewayId) {request : Gateway.Request α}
    (lookup : request.method.isLookup) : Describes (Action.ask id request) :=
  exchange id (.ask lookup)

end Describes

end Action

end Orchestration
