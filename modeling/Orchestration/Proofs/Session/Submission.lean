import Orchestration.Proofs.Session.Document

namespace Orchestration.Session

open Orchestration.Action (Congruent Respects)

/-! Talking to a gateway before and after a submission changes nothing but
that gateway. -/

theorem checkVersion_respects (id : GatewayId) :
    Respects Served (checkVersion id) := fun session =>
  .single ⟨id, (Gateway.checkVersion (session.gateway id)).2, rfl⟩

theorem ensureOwner_respects (workflow : Workflow) :
    Respects Served (ensureOwner workflow) :=
  .bind (.ask _ _) fun _ => .ask _ _

theorem uploadAll_respects (workflow : Workflow) (resources : List Resource) :
    Respects Served (uploadAll workflow resources) := by
  induction resources with
  | nil => exact .pure _
  | cons resource rest induction =>
      exact .bind (.exchange _ _) fun _ => induction

theorem start_respects (id : WorkflowId) : Respects Served (start id) :=
  .bind .get fun _ => .ask _ _

theorem submit_respects {step : Session → Session → Prop}
    (served : ∀ before after, Served before after → step before after)
    (looked : ∀ before after, Looked before after → step before after)
    (coded : ∀ session id code,
      step session (session.updateWorkflow id fun workflow =>
        { workflow with code := some code })) (id : WorkflowId) :
    Respects step (submit id) := by
  refine .bind .get fun session => ?_
  refine .bind ((checkVersion_respects _).mono served) fun _ => ?_
  refine .bind ((ensureOwner_respects _).mono served) fun _ => ?_
  refine .bind .get fun _ => .bind (.ofExcept _) fun _ => ?_
  refine .bind ((uploadAll_respects _ _).mono served) fun _ => ?_
  refine .bind ((definition_looked id).mono looked) fun _ => ?_
  refine .bind ((Respects.ask _ _).mono served) fun code => ?_
  exact .bind (.modify fun session => coded session id code) fun _ => .pure _

theorem submitAndStart_respects {step : Session → Session → Prop}
    (served : ∀ before after, Served before after → step before after)
    (looked : ∀ before after, Looked before after → step before after)
    (coded : ∀ session id code,
      step session (session.updateWorkflow id fun workflow =>
        { workflow with code := some code })) (id : WorkflowId) :
    Respects step (submitAndStart id) :=
  .bind (submit_respects served looked coded id) fun _ =>
    .bind ((start_respects id).mono served) fun _ => .pure _

theorem checkVersion_congruent (id : GatewayId) :
    Congruent (checkVersion id) where
  result alike :=
    congrArg Except.ok (Gateway.checkVersion_agrees (alike.gateway id))
  after {session other} alike := by
    have unlogged : ∀ server : Gateway.Server,
        (Gateway.checkVersion server).2.unlogged = server.unlogged := by
      intro server
      rw [Gateway.checkVersion_snd, Gateway.Server.unlogged_log]
    apply alike.updateGateway id
    exact (unlogged _).trans ((alike.gateway id).trans (unlogged _).symm)

theorem ensureOwner_congruent (workflow : Workflow) :
    Congruent (ensureOwner workflow) :=
  .bind (.ask _ _) fun _ => .ask _ _

theorem exchange_save (id : GatewayId) (resource : Resource) (user : String) :
    Action.exchange id (resource.save user) =
      Action.ofExcept (resource.upload user) >>= Action.ask id := by
  funext session
  change (Action.exchange id (resource.save user)).run session =
    (Action.ofExcept (resource.upload user) >>= Action.ask id).run session
  rw [Action.run_bind, Resource.save]
  cases resource.upload user with
  | ok request => rfl
  | error error => exact Prod.ext rfl (updateGateway_self session id)

theorem uploadAll_ignores (workflow : Workflow) (relations : RelationSet)
    (resources : List Resource) :
    uploadAll { workflow with relations := relations } resources =
      uploadAll workflow resources := by
  induction resources with
  | nil => rfl
  | cons resource rest induction =>
      rw [uploadAll, uploadAll, induction]

theorem uploadAll_congruent (workflow : Workflow) (resources : List Resource) :
    Congruent (uploadAll workflow resources) := by
  induction resources with
  | nil => exact .pure _
  | cons resource rest induction =>
      rw [uploadAll, exchange_save]
      exact .bind (.bind (.ofExcept _) fun _ => .ask _ _) fun _ => induction

theorem Alike.validate {session other : Session} (alike : session.Alike other)
    (id : WorkflowId) : session.validate id = other.validate id := by
  have parameters : (session.workflow id).parameters =
      (other.workflow id).parameters :=
    (alike.workflow id).field Workflow.parameters fun _ _ => rfl
  have tasks : session.tasksIn id = other.tasksIn id := by
    rw [tasksIn, tasksIn, alike.taskIds]
    exact List.map_congr_left fun task _ => alike.task task
  simp only [Session.validate, parameters, tasks]

theorem submit_congruent (id : WorkflowId) : Congruent (submit id) := by
  refine .read (fun {session other} alike => ?_) fun session => ?_
  · obtain ⟨relations, same⟩ := (alike.workflow id).relations_only
    rw [same]
    dsimp only
    rw [uploadAll_ignores (session.workflow id) relations]
    rfl
  · refine .bind (checkVersion_congruent _) fun _ =>
      .bind (ensureOwner_congruent _) fun _ =>
        .read (fun alike => by rw [alike.validate]) fun _ => ?_
    refine .bind (.ofExcept _) fun _ => .bind (uploadAll_congruent _ _)
      fun _ => .bind (definition_congruent id) fun _ =>
        .bind (.ask _ _) fun _ => .bind (.modify fun alike => ?_) fun _ =>
          .pure _
    apply alike.updateWorkflow_ignoring
    · exact fun _ _ => rfl
    · exact fun _ _ listed => listed

theorem start_congruent (id : WorkflowId) : Congruent (start id) := by
  refine .read (fun {session other} alike => ?_) fun session => .ask _ _
  obtain ⟨relations, same⟩ := (alike.workflow id).relations_only
  rw [same]
  rfl

theorem submitAndStart_congruent (id : WorkflowId) :
    Congruent (submitAndStart id) :=
  .bind (submit_congruent id) fun _ => .bind (start_congruent id) fun _ =>
    .pure _

end Orchestration.Session
