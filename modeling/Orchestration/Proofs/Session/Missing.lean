import Orchestration.Proofs.Parameter.Inference
import Orchestration.Proofs.Session.Phases
import Orchestration.Proofs.Session.Resolution

namespace Orchestration

open Gateway (Request Server)

/-! Among the reasons for which a submission stops, a file that is not there is
told from all others by its answer. -/

namespace Session

open Orchestration.Action (Settled)

variable {session : Session} {id : WorkflowId} {task : TaskId}
  {user name : String}

theorem outcome_requireOwner (session : Session) (task : TaskId)
    (kind : String) (next : Workflow → Action α) :
    (requireOwner task kind >>= next).outcome session =
      match session.owner task with
      | some owner => (next (session.workflow owner)).outcome session
      | none => .error (.parameter (.workflowRequiredFor kind)) := by
  rw [requireOwner_bind, Action.outcome_read]
  cases session.owner task <;> rfl

end Session

namespace Preparation

variable {session : Session} {id : WorkflowId} {workflow : Workflow}
  {preparation : Preparation}

end Preparation

end Orchestration
