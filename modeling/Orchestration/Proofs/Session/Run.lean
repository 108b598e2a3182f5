import Orchestration.Proofs.Session.Access
import Orchestration.Session.Building
import Orchestration.Session.State
import Orchestration.Session.Submission
import Orchestration.Workflow.Draft

namespace Orchestration

open Gateway (Server)
open Session (Arrow Operand)

/-! Runs: what programs do with the objects of a session, one operation after
the other, and the sessions that come out. -/

def TaskKind.branchTasks : TaskKind → List TaskId
  | .switch choice => choice.tasks
  | _ => []

def Session.Operand.pairs (before after : Operand) : List (TaskId × TaskId) :=
  before.tasks.flatMap fun pre => after.tasks.map fun post => (pre, post)

def Session.Arrow.links (direction : Arrow) (left right : Operand) :
    List (TaskId × TaskId) :=
  match left, right with
  | .many _, .many _ => []
  | _, _ =>
      match direction with
      | .right => left.pairs right
      | .left => right.pairs left

inductive Operation where
  | openGateway (server : Server)
  /-- A gateway comes into another state: it was prepared, or others used it. -/
  | serve (id : GatewayId) (server : Server)
  | clock (now : String)
  | openWorkflow (draft : WorkflowDraft)
  /-- Somebody takes a workflow that is alive at hand. -/
  | hold (id : WorkflowId)
  | release (id : WorkflowId)
  | enter (id : WorkflowId)
  | leave
  | setParameter (id : WorkflowId) (name : String) (value : HostValue)
  | build (draft : TaskDraft)
  | addInput (task : TaskId) (name : String) (value : HostValue)
  | addOutput (task : TaskId) (name : String) (value : HostValue)
  | addTask (id : WorkflowId) (task : TaskId)
  | precedes (task : TaskId) (targets : List TaskId)
  | follows (task : TaskId) (targets : List TaskId)
  | arrow (direction : Arrow) (left right : Operand)
  | synthesizeRoots (id : WorkflowId)
  | definitionList (id : WorkflowId)
  | relationList (id : WorkflowId)
  | definition (id : WorkflowId)
  | summary (id : WorkflowId)
  | submit (id : WorkflowId)
  | start (id : WorkflowId)
  | submitAndStart (id : WorkflowId)

namespace Operation

/-- The session after an operation, also if the operation failed. -/
def perform (session : Session) : Operation → Session
  | openGateway server => (session.addGateway server).2
  | serve id server => session.updateGateway id fun _ => server
  | clock now => { session with now := now }
  | openWorkflow draft =>
      match draft.build with
      | .ok workflow => (session.addWorkflow workflow).2
      | .error _ => session
  | hold id =>
      session.updateWorkflow id fun workflow => { workflow with held := true }
  | release id => session.release id
  | enter id => session.enter id
  | leave => session.leave
  | setParameter id name value =>
      session.updateWorkflow id (·.setParameter name value)
  | build draft => (draft.build.run session).2
  | addInput task name value =>
      session.updateTask task fun task =>
        { task with inputs := task.inputs.insert name value }
  | addOutput task name value =>
      session.updateTask task fun task =>
        { task with outputs := task.outputs.insert name value }
  | addTask id task => (session.addTask id task).2
  | precedes task targets => session.precedes task targets
  | follows task targets => session.follows task targets
  | arrow direction left right => session.arrow direction left right
  | synthesizeRoots id => session.synthesizeRoots id
  | definitionList id => ((Session.definitionList id).run session).2
  | relationList id => ((Session.relationList id).run session).2
  | definition id => ((Session.definition id).run session).2
  | summary id => ((Session.summary id).run session).2
  | submit id => ((Session.submit id).run session).2
  | start id => ((Session.start id).run session).2
  | submitAndStart id => ((Session.submitAndStart id).run session).2

/-- Tasks are used once they are there, and workflows as long as they live. -/
def isPossible (session : Session) : Operation → Bool
  | openGateway _ | serve _ _ | clock _ | openWorkflow _ | release _
  | leave => true
  | hold id | enter id | setParameter id _ _ | synthesizeRoots id
  | definitionList id | relationList id | definition id | summary id
  | submit id | start id | submitAndStart id => session.isAlive id
  | build draft =>
      draft.workflow.all session.isAlive &&
        draft.kind.branchTasks.all session.hasTask
  | addInput task _ _ | addOutput task _ _ => session.hasTask task
  | addTask id task => session.isAlive id && session.hasTask task
  | precedes task targets | follows task targets =>
      session.hasTask task && targets.all session.hasTask
  | arrow _ left right =>
      left.tasks.all session.hasTask && right.tasks.all session.hasTask

/-- The links that an operation makes, from a task to one that comes after. -/
def links (session : Session) : Operation → List (TaskId × TaskId)
  | precedes task targets => targets.map fun target => (task, target)
  | follows task targets => targets.map fun target => (target, task)
  | arrow direction left right => direction.links left right
  | build draft =>
      match (draft.build.run session).1 with
      | .ok id => draft.kind.branchTasks.map fun target => (id, target)
      | .error _ => []
  | _ => []

end Operation

namespace Session

/-- The workflow holds this very task under the code of the task. -/
def Registered (session : Session) (id : WorkflowId) (task : TaskId) : Prop :=
  (session.workflow id).tasks.find? (session.task task).code = some task

instance (session : Session) (id : WorkflowId) (task : TaskId) :
    Decidable (session.Registered id task) :=
  inferInstanceAs (Decidable (_ = _))

end Session

namespace Operation

/-- The operation moves a task out of a workflow. -/
def Moves (session : Session) (task : TaskId) (id : WorkflowId)
    (operation : Operation) : Prop :=
  ∃ target, operation = addTask target task ∧ target ≠ id ∧
    session.Registered id task ∧ (session.addTask target task).1 = true

end Operation

/-- Sessions that come out of nothing by operations. -/
inductive Run : Session → Type where
  | start (now : String) : Run { now := now }
  | step (run : Run session) (operation : Operation)
      (possible : operation.isPossible session = true) :
      Run (operation.perform session)

namespace Operation

def performAll (session : Session) : List Operation → Session
  | [] => session
  | operation :: rest => performAll (operation.perform session) rest

def arePossible (session : Session) : List Operation → Bool
  | [] => true
  | operation :: rest =>
      operation.isPossible session &&
        arePossible (operation.perform session) rest

end Operation

namespace Run

def extend (run : Run session) : (operations : List Operation) →
    Operation.arePossible session operations = true →
      Run (Operation.performAll session operations)
  | [], _ => run
  | operation :: rest, possible =>
      have both := Bool.and_eq_true_iff.mp possible
      (run.step operation both.1).extend rest both.2

/-- Some operation linked the first task before the second. -/
def Linked (pre post : TaskId) : Run session → Prop
  | start _ => False
  | @step before run operation _ =>
      (pre, post) ∈ operation.links before ∨ run.Linked pre post

/-- Some operation linked the first task before the second while a workflow had
both of them, and the workflow has kept both since. -/
def Stands (id : WorkflowId) (pre post : TaskId) : Run session → Prop
  | start _ => False
  | @step before run operation _ =>
      ((pre, post) ∈ operation.links before ∧
        (operation.perform before).Registered id pre ∧
        (operation.perform before).Registered id post) ∨
      (run.Stands id pre post ∧ ¬ operation.Moves before pre id ∧
        ¬ operation.Moves before post id)

end Run

/-- A run in which a link crosses two workflows and then no longer does: the
later task moves to the workflow of the earlier one. -/
def crossing : List Operation :=
  [.openGateway {}, .openWorkflow { name := "first", gateway := ⟨0⟩ },
    .openWorkflow { name := "second", gateway := ⟨0⟩ },
    .build { name := "a", kind := .shell "", workflow := some ⟨0⟩ },
    .build { name := "b", kind := .shell "", workflow := some ⟨1⟩ },
    .precedes ⟨0⟩ [⟨1⟩], .addTask ⟨0⟩ ⟨1⟩]

def crossed : Session := Operation.performAll { now := "" } crossing

def Run.toCrossed : Run crossed :=
  (Run.start "").extend crossing (by decide +kernel)

end Orchestration
