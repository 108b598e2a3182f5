import Orchestration.Proofs.Session.Perform
import Orchestration.Proofs.Session.Preparation

namespace Orchestration

open Gateway (Server)

namespace Gateway.Server

theorem answer_taskIdentity_error {server : Server}
    {project workflow task : String} {error : Error}
    (failed : (server.answer (.taskIdentity project workflow task)).1 =
      .error error) :
    (server.answer (.taskIdentity project workflow task)).2 =
      server.log [.taskIdentity] := by
  cases primed : server.primed .taskIdentity with
  | some cause =>
      rw [answer_of_primed primed]
      rfl
  | none =>
      rw [answer_of_unprimed primed, serve, identify] at failed
      split at failed <;> cases failed

end Gateway.Server

namespace TaskDraft

/-! A build goes through the workflow, the kind, the identity and the
registration of the task, and may end at any of them. -/

/-- What the gateway of the workflow replies about the task. -/
def reply (draft : TaskDraft) (session : Session) (id : WorkflowId) :
    Server.Reply TaskIdentity :=
  let workflow := session.workflow id
  (session.gateway workflow.gateway).answer
    (.taskIdentity workflow.project workflow.name draft.name)

def asked (draft : TaskDraft) (session : Session) (id : WorkflowId) :
    Session :=
  session.withServer (session.workflow id).gateway (draft.reply session id).2

theorem build_run (draft : TaskDraft) (session : Session) :
    draft.build.run session =
      match draft.workflowIn session with
      | .error error => (.error error, session)
      | .ok id =>
          match (draft.resolvedKind (session.workflow id)).run with
          | .error error => (.error error, session)
          | .ok kind =>
              match (draft.reply session id).1 with
              | .error cause => (.error (.gateway cause), draft.asked session id)
              | .ok identity =>
                  (draft.asked session id).register id
                    (draft.task kind (session.workflow id).gateway identity) := by
  rw [build, Action.run_get_bind, Action.run_ofExcept_bind]
  cases found : draft.workflowIn session with
  | error error =>
      rw [reading_of_homeless found]
      rfl
  | ok id =>
      rw [reading_of_found found, Reading.run_bind]
      dsimp only
      cases (draft.resolvedKind (session.workflow id)).run with
      | error error => rfl
      | ok kind =>
          change (draft.finish id kind).run session = _
          rw [finish, Action.run_get_bind, Action.run_bind, Session.ask_run,
            asked, reply]
          generalize (session.gateway (session.workflow id).gateway).answer _ =
            replied
          rcases replied with ⟨cause | identity, server⟩ <;> rfl

/-- How a build ends without a task, and the session that it leaves. -/
inductive Refused (draft : TaskDraft) (session : Session) :
    Error → Session → Prop where
  | homeless {error : Error}
      (found : draft.workflowIn session = .error error) :
      Refused draft session error session
  | invalid {id : WorkflowId} {error : Error}
      (found : draft.workflowIn session = .ok id)
      (invalid : draft.kind.validate = .error error) :
      Refused draft session error session
  | unread {id : WorkflowId} {error : Error}
      (found : draft.workflowIn session = .ok id)
      (valid : draft.kind.validate = .ok ())
      (unread : (draft.kind.resolveBody
        (draft.plugin <|> (session.workflow id).plugin)).run = .error error) :
      Refused draft session error session
  | unidentified {id : WorkflowId} {kind : TaskKind} {cause : Gateway.Error}
      (found : draft.workflowIn session = .ok id)
      (resolved : (draft.resolvedKind (session.workflow id)).run = .ok kind)
      (replied : (draft.reply session id).1 = .error cause) :
      Refused draft session (.gateway cause)
        (session.updateGateway (session.workflow id).gateway
          (·.log [.taskIdentity]))
  | taken {id : WorkflowId} {kind : TaskKind} {identity : TaskIdentity}
      (found : draft.workflowIn session = .ok id)
      (resolved : (draft.resolvedKind (session.workflow id)).run = .ok kind)
      (replied : (draft.reply session id).1 = .ok identity)
      (taken : (session.workflow id).tasks.contains identity.code) :
      Refused draft session
        (.duplicateTask draft.name identity.code (session.workflow id).name)
        (draft.asked session id)

variable {draft : TaskDraft} {session after : Session} {id : WorkflowId}
  {kind : TaskKind} {error : Error}

theorem resolvedKind_error_iff {workflow : Workflow} :
    (draft.resolvedKind workflow).run = .error error ↔
      draft.kind.validate = .error error ∨
        draft.kind.validate = .ok () ∧
          (draft.kind.resolveBody (draft.plugin <|> workflow.plugin)).run =
            .error error := by
  rw [resolvedKind, Reading.run_bind, Reading.run]
  cases draft.kind.validate with
  | error cause => simp [bind, Except.bind]
  | ok _ => simp [bind, Except.bind]

theorem asked_sameObjects (draft : TaskDraft) (session : Session)
    (id : WorkflowId) : Session.SameObjects session (draft.asked session id) :=
  Session.sameObjects_of_served (.single ⟨_, _, rfl⟩)

theorem asked_of_unanswered {cause : Gateway.Error}
    (replied : (draft.reply session id).1 = .error cause) :
    draft.asked session id =
      session.updateGateway (session.workflow id).gateway
        (·.log [.taskIdentity]) := by
  have logged := Server.answer_taskIdentity_error replied
  rw [asked, reply, logged]
  exact session.updateGateway_gateway _ (·.log [.taskIdentity])

theorem register_failed_iff {identity : TaskIdentity} {gateway : GatewayId} :
    (draft.asked session id).register id (draft.task kind gateway identity) =
        (.error error, after) ↔
      (session.workflow id).tasks.contains identity.code ∧
        error = .duplicateTask draft.name identity.code
          (session.workflow id).name ∧
        after = draft.asked session id := by
  have same := (draft.asked_sameObjects session id).workflow id
  cases taken : (session.workflow id).tasks.contains identity.code with
  | true =>
      rw [← same] at taken
      rw [Session.register_of_taken taken, same]
      simp [task, eq_comm]
  | false =>
      rw [← same] at taken
      rw [Session.register_of_free taken]
      simp

theorem build_failed_iff :
    draft.build.run session = (.error error, after) ↔
      draft.Refused session error after := by
  constructor
  · intro failed
    rw [build_run] at failed
    cases found : draft.workflowIn session with
    | error cause =>
        rw [found] at failed
        cases failed
        exact .homeless found
    | ok id =>
        cases resolved : (draft.resolvedKind (session.workflow id)).run with
        | error cause =>
            simp only [found, resolved] at failed
            cases failed
            rcases resolvedKind_error_iff.mp resolved with
              invalid | ⟨valid, unread⟩
            · exact .invalid found invalid
            · exact .unread found valid unread
        | ok kind =>
            cases replied : (draft.reply session id).1 with
            | error cause =>
                simp only [found, resolved, replied] at failed
                cases failed
                rw [asked_of_unanswered replied]
                exact .unidentified found resolved replied
            | ok identity =>
                simp only [found, resolved, replied] at failed
                obtain ⟨taken, rfl, rfl⟩ := register_failed_iff.mp failed
                exact .taken found resolved replied taken
  · intro refused
    rw [build_run]
    cases refused with
    | homeless found => rw [found]
    | @invalid id _ found invalid =>
        have resolved : (draft.resolvedKind (session.workflow id)).run =
            .error error := resolvedKind_error_iff.mpr (.inl invalid)
        simp only [found, resolved]
    | unread found valid unread =>
        have resolved := resolvedKind_error_iff.mpr (.inr ⟨valid, unread⟩)
        simp only [found, resolved]
    | unidentified found resolved replied =>
        simp only [found, resolved, replied, asked_of_unanswered replied]
    | taken found resolved replied taken =>
        simp only [found, resolved, replied]
        exact register_failed_iff.mpr ⟨taken, rfl, rfl⟩

theorem Refused.sameObjects (refused : draft.Refused session error after) :
    Session.SameObjects session after := by
  cases refused with
  | homeless | invalid | unread => exact ⟨rfl, rfl, rfl⟩
  | unidentified => exact ⟨rfl, rfl, rfl⟩
  | taken => exact draft.asked_sameObjects session _

/-- A build without a task leaves all workflows and tasks, and at most the
gateway of its workflow notices it. -/
theorem refusal (failed : draft.build.run session = (.error error, after)) :
    draft.Refused session error after ∧ Session.SameObjects session after ∧
      ∀ task, after.owner task = session.owner task := by
  have refused := build_failed_iff.mp failed
  have same := refused.sameObjects
  refine ⟨refused, same, fun task => ?_⟩
  have alive : after.isAlive = session.isAlive := funext same.isAlive
  rw [Session.owner, same.task, alive, Session.owner]

/-- A switch with a name that is taken: its branch is not linked with it. -/
theorem refusal_repeated :
    let session := Operation.performAll { now := "" } [.openGateway {},
      .openWorkflow { name := "w", gateway := ⟨0⟩ },
      .build { name := "a", kind := .shell "", workflow := some ⟨0⟩ }]
    let draft : TaskDraft :=
      { name := "a", kind := .switch ⟨[⟨⟨0⟩, none⟩], by decide⟩,
        workflow := some ⟨0⟩ }
    ∃ after, draft.build.run session =
        (.error (.duplicateTask "a" 1000 "w"), after) ∧
      Session.SameObjects session after ∧
      (session.gateway ⟨0⟩).calls = [.taskIdentity] ∧
      (after.gateway ⟨0⟩).calls = [.taskIdentity, .taskIdentity] := by
  intro session draft
  have outcome : (draft.build.run session).1 =
      .error (.duplicateTask "a" 1000 "w") := by decide +kernel
  have failed : draft.build.run session =
      (.error (.duplicateTask "a" 1000 "w"), (draft.build.run session).2) :=
    Prod.ext outcome rfl
  exact ⟨_, failed, (refusal failed).2.1, by decide +kernel,
    by decide +kernel⟩

end TaskDraft

end Orchestration
