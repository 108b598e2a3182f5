import Orchestration.Proofs.Session.Outcome
import Orchestration.Proofs.Session.Switching

namespace Orchestration

open Gateway (Server)

namespace Session

variable {session reached after : Session} {id : WorkflowId}

/-- The workflow was prepared and then described by the record, in which the
documents stand for its tasks. -/
def Submits (session : Session) (id : WorkflowId)
    (record : WorkflowDefinition) (documents : List Json) : Prop :=
  ∃ reached relations,
    (prepare (session.workflow id) id).run session = (.ok (), reached) ∧
      Documented reached id record documents relations

namespace SameObjects

theorem taskIds (same : SameObjects session after) (id : WorkflowId) :
    after.taskIds id = session.taskIds id := by
  rw [Session.taskIds, Session.taskIds, same.workflow]

theorem validate (same : SameObjects session after) (id : WorkflowId) :
    after.validate id = session.validate id := by
  have tasks : after.tasksIn id = session.tasksIn id := by
    rw [tasksIn, tasksIn, same.taskIds]
    exact List.map_congr_left fun task _ => same.task task
  simp only [Session.validate, same.workflow, tasks]

end SameObjects

theorem sameObjects_of_attempt {workflow : Workflow}
    {preparation : Preparation} {outcome : Except Error Unit}
    (ran : (preparation.attempt workflow id).run session = (outcome, reached)) :
    SameObjects session reached := by
  refine sameObjects_of_run ?_ ran
  refine .bind .get fun _ => .bind (.ofExcept _) fun request => ?_
  cases request with
  | some request => exact .ask _ _
  | none => exact .pure _

theorem validate_of_prepared {workflow : Workflow}
    (ran : (prepare workflow id).run session = (.ok (), reached)) :
    session.validate id = .ok () := by
  obtain ⟨_, asked, checked, ran⟩ := Action.bind_ok ran
  obtain ⟨_, enrolled, user, ran⟩ := Action.bind_ok ran
  obtain ⟨_, granted, project, ran⟩ := Action.bind_ok ran
  obtain ⟨_, _, switches, -⟩ := Action.bind_ok ran
  rw [Preparation.attempt_switches] at switches
  have valid := (Action.ofExcept_ok switches).1
  have same := (sameObjects_of_run (checkVersion_respects _) checked).trans
    ((sameObjects_of_attempt user).trans (sameObjects_of_attempt project))
  rwa [same.validate] at valid

theorem Submits.recorded {record : WorkflowDefinition} {documents : List Json}
    (submits : session.Submits id record documents) :
    ∃ reached,
      (prepare (session.workflow id) id).run session = (.ok (), reached) ∧
        SameObjects session reached ∧
        (session.taskIds id = [] ∧ documents = [.object []] ∨
          ∃ records : List TaskDefinition,
            documents = records.map (·.toJson.sorted) ∧
              List.Forall₂ (Recorded reached) (session.taskIds id)
                records) := by
  obtain ⟨reached, _, ran, documented⟩ := submits
  obtain ⟨_, listed, -⟩ := documented.listed
  have same := sameObjects_of_run (prepare_served _ id) ran
  refine ⟨reached, ran, same, ?_⟩
  rw [← same.taskIds]
  exact definitionList_documents (congrArg Prod.fst listed)

theorem submissions_of_asks {allowed : GatewayId → Gateway.Method → Prop}
    (silent : ∀ id, ¬ allowed id .saveWorkflow)
    (asks : Asks allowed session after) (gateway : GatewayId) :
    (after.gateway gateway).submissions =
      (session.gateway gateway).submissions :=
  Server.submissions_of_asked (silent gateway) (asks gateway)

theorem submissions_prepare {workflow : Workflow}
    {outcome : Except Error Unit}
    (ran : (prepare workflow id).run session = (outcome, reached))
    (gateway : GatewayId) :
    (reached.gateway gateway).submissions =
      (session.gateway gateway).submissions := by
  have asks : Asks (fun _ method => method ≠ .saveWorkflow) session
      ((prepare workflow id).run session).2 :=
    .of_run (prepare_asks (fun _ other => other) id) session
  rw [ran] at asks
  exact submissions_of_asks (fun _ other => other rfl) asks gateway

theorem submissions_definition {outcome : Except Error WorkflowDefinition}
    (ran : (definition id).run session = (outcome, after))
    (gateway : GatewayId) :
    (after.gateway gateway).submissions =
      (session.gateway gateway).submissions := by
  have looked := definition_looked id session
  rw [ran] at looked
  obtain ⟨_, -, logged⟩ := gateway_of_looked looked gateway
  rw [logged]
  rfl

theorem submissions_ask (session : Session) (id : GatewayId)
    (record : WorkflowDefinition) (gateway : GatewayId) :
    (((Action.ask id (.saveWorkflow record)).run session).2.gateway
        gateway).submissions = (session.gateway gateway).submissions ∨
      gateway = id ∧
        (((Action.ask id (.saveWorkflow record)).run session).2.gateway
            gateway).submissions =
          (session.gateway gateway).submissions ++ [record] := by
  rw [ask_run]
  rcases gateway_updateGateway_cases session id
    (fun _ => ((session.gateway id).answer (.saveWorkflow record)).2) gateway
    with same | ⟨rfl, same⟩
  · exact .inl (congrArg Server.submissions same)
  · rw [withServer, same]
    rcases (session.gateway gateway).answer_saveWorkflow record with
      ⟨error, -, answered⟩ | ⟨code, stored, -, answered, published⟩
    · rw [answered]
      exact .inl rfl
    · rw [answered]
      exact .inr ⟨rfl, published.submissions⟩

theorem submissions_submit (session : Session) (id : WorkflowId)
    (gateway : GatewayId) :
    (((submit id).run session).2.gateway gateway).submissions =
        (session.gateway gateway).submissions ∨
      (session.workflow id).gateway = gateway ∧
        ∃ record documents, session.Submits id record documents ∧
          (((submit id).run session).2.gateway gateway).submissions =
            (session.gateway gateway).submissions ++ [record] := by
  rw [submit_eq, Action.run_get_bind]
  dsimp only
  rw [Action.run_bind]
  rcases ran : (prepare (session.workflow id) id).run session with
    ⟨error | _, reached⟩
  · exact .inl (submissions_prepare ran gateway)
  · dsimp only
    rw [← submissions_prepare ran gateway, publish, Action.run_bind]
    rcases told : (definition id).run reached with ⟨error | record, described⟩
    · exact .inl (submissions_definition told gateway)
    · dsimp only
      obtain ⟨documents, relations, documented⟩ := exists_documented told
      rw [← submissions_definition told gateway, Action.run_bind]
      have saved := submissions_ask described (session.workflow id).gateway
        record gateway
      generalize (Action.ask (session.workflow id).gateway
        (.saveWorkflow record)).run described = answered at saved ⊢
      obtain ⟨error | code, stored⟩ := answered
      all_goals
        refine saved.imp_right ?_
        rintro ⟨same, published⟩
        exact ⟨same.symm, record, documents,
          ⟨reached, relations, ran, documented⟩, published⟩

end Session

namespace Operation

theorem submissions_perform (session : Session) {operation : Operation}
    (inside : operation.isOutside = false) (gateway : GatewayId) :
    ((operation.perform session).gateway gateway).submissions =
        (session.gateway gateway).submissions ∨
      ∃ id, operation.submitted? = some id ∧
        (session.workflow id).gateway = gateway ∧
        ∃ record documents, session.Submits id record documents ∧
          ((operation.perform session).gateway gateway).submissions =
            (session.gateway gateway).submissions ++ [record] := by
  cases submits : operation.submitted? with
  | none =>
      refine .inl (Session.submissions_of_asks (fun _ allowed => ?_)
        (operation.asks_perform session inside) gateway)
      have some := allowed rfl
      rw [submits] at some
      cases some
  | some id =>
      have submitted := Session.submissions_submit session id gateway
      cases operation with
      | submit other =>
          cases submits
          exact submitted.imp_right fun published => ⟨id, rfl, published⟩
      | submitAndStart other =>
          cases submits
          rw [perform, Session.submitAndStart, Action.run_bind]
          generalize (Session.submit id).run session = reached at submitted ⊢
          obtain ⟨error | code, after⟩ := reached
          · exact submitted.imp_right fun published => ⟨id, rfl, published⟩
          · have asks : Session.Asks (fun _ method => method ≠ .saveWorkflow)
                after ((Session.start id >>= fun _ => pure code).run after).2 :=
              .of_run (.bind (.bind .get fun _ => Session.ask_asks
                fun same => by cases same) fun _ => .pure code) after
            have kept := Session.submissions_of_asks
              (fun _ other => other rfl) asks gateway
            dsimp only at submitted ⊢
            rw [kept]
            exact submitted.imp_right fun published => ⟨id, rfl, published⟩
      | _ => cases submits

end Operation

end Orchestration
