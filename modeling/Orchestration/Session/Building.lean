import Orchestration.Session.Linking

namespace Orchestration

structure TaskDraft where
  name : String
  kind : TaskKind
  workflow : Option WorkflowId := none
  options : TaskOptions := {}
  plugin : Option Plugin := none
  inputs : ParameterMap := .empty
  outputs : ParameterMap := .empty
  rawParameters : List Parameter := []
  resources : List ResourceReference := []

namespace TaskDraft

/-- The workflow of the draft, or else the innermost one in scope. -/
def workflowIn (draft : TaskDraft) (session : Session) :
    Except Error WorkflowId :=
  match draft.workflow <|> session.scopes.head? with
  | some id => .ok id
  | none => .error (.parameter (.workflowRequired draft.name))

/-- The kind of the task to be, with its body read. -/
def resolvedKind (draft : TaskDraft) (workflow : Workflow) :
    Reading TaskKind := do
  .done draft.kind.validate
  draft.kind.resolveBody (draft.plugin <|> workflow.plugin)

def reading (draft : TaskDraft) (session : Session) :
    Reading (WorkflowId × TaskKind) := do
  let id ← .done (draft.workflowIn session)
  let kind ← draft.resolvedKind (session.workflow id)
  return (id, kind)

def task (draft : TaskDraft) (kind : TaskKind) (gateway : GatewayId)
    (identity : TaskIdentity) : Task where
  name := draft.name
  code := identity.code
  version := identity.version
  kind := kind
  options := draft.options
  resources := draft.resources
  rawParameters := draft.rawParameters
  gateway := gateway
  inputs := draft.inputs
  outputs := draft.outputs

end TaskDraft

namespace Session

/-- A switch comes before the tasks of its branches. -/
def linkBranches (session : Session) (id : TaskId) : Session :=
  match (session.task id).kind with
  | .switch switch => session.precedes id switch.tasks
  | _ => session

/-- Puts a new task into a workflow; if it does not fit, it is gone. -/
def register (session : Session) (id : WorkflowId) (task : Task) :
    Except Error TaskId × Session :=
  let (taskId, extended) := session.newTask task
  match extended.addTask id taskId with
  | (true, session) => (.ok taskId, session.linkBranches taskId)
  | (false, _) =>
      (.error (.duplicateTask task.name task.code (session.workflow id).name),
        session)

end Session

namespace TaskDraft

/-- What is left of a build once nothing is to be read. -/
def finish (draft : TaskDraft) (id : WorkflowId) (kind : TaskKind) :
    Action TaskId := do
  let workflow := (← get).workflow id
  let identity ←
    Action.ask workflow.gateway
      (.taskIdentity workflow.project workflow.name draft.name)
  fun session =>
    session.register id (draft.task kind workflow.gateway identity)

def build (draft : TaskDraft) : Action TaskId := do
  let (id, kind) ← Action.ofExcept (draft.reading (← get)).run
  draft.finish id kind

end TaskDraft

end Orchestration
