import Orchestration.Proofs.Session.Publishing
import Orchestration.Proofs.Session.TaskParameters

namespace Orchestration

open Gateway (Server Upload)

/-! Files are uploaded before the tasks that refer to them are described, so
that their names lead to the uploads. -/

namespace Preparation

variable {workflow : Workflow} {validated : Except Error Unit}

end Preparation

namespace Session

variable {session reached after : Session} {id : WorkflowId} {task : TaskId}

def fullName? (session : Session) (id : WorkflowId) :
    ResourceReference → Option String
  | .named name =>
      let workflow := session.workflow id
      if name ∈ workflow.resources.map (·.name) then
        some (Server.resourcePath workflow.user name)
      else (session.gateway workflow.gateway).resources.lookup name
  | .resolved fullName => some fullName

end Session

def TaskKind.ownResources? : TaskKind → Option Json
  | .custom _ parameters => parameters.find? StandardField.resourceList.name
  | _ => none

namespace Session

variable {session reached after : Session} {id : WorkflowId} {task : TaskId}

theorem OwnFields.resources {kind : TaskKind} {own : List (String × Json)}
    (fields : OwnFields session kind own) :
    own.reverse.lookup StandardField.resourceList.name =
      kind.ownResources? := by
  cases fields with
  | http told =>
      obtain ⟨_, -, told⟩ := Except.bind_ok told
      cases told
      rfl
  | custom type parameters =>
      exact SortedMap.lookup_reverse_entries parameters _
  | _ => rfl

theorem Recorded.resources {record : TaskDefinition}
    (recorded : session.Recorded task record)
    (plain : (session.task task).kind.ownResources? = none) :
    ∃ records, (resourceList task).outcome session = .ok records ∧
      record.taskParams.find? StandardField.resourceList.name =
        some (.array (records.map ResourceRecord.toJson)) := by
  obtain ⟨parameters, records, own, -, resolved, added, written⟩ :=
    recorded.parameters
  refine ⟨records, resolved, ?_⟩
  rw [written, SortedMap.find?_ofList, List.reverse_append, List.lookup_append,
    (kindFields_ok added).resources, plain]
  cases (session.task task).kind <;> rfl

end Session

namespace Session

variable {session : Session} {id : WorkflowId}

end Session

end Orchestration
