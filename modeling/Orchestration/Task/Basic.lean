import Orchestration.Relation
import Orchestration.Resource.Basic
import Orchestration.Task.Kind
import Orchestration.Task.Options

namespace Orchestration

structure Task where
  name : String
  code : Int
  version : Int
  kind : TaskKind
  options : TaskOptions := {}
  resources : List ResourceReference := []
  rawParameters : List Parameter := []
  gateway : GatewayId
  /-- The workflow that the task was last put into; it may be gone. -/
  workflow : Option WorkflowId := none
  /-- Codes of the tasks that the task was linked with. -/
  predecessors : SortedSet Int := .empty
  successors : SortedSet Int := .empty
  inputs : ParameterMap := .empty
  outputs : ParameterMap := .empty
deriving DecidableEq

namespace Task

instance : Inhabited Task :=
  ⟨{ name := "", code := rootCode, version := 0, kind := default, gateway := ⟨0⟩ }⟩

/-- Raw parameters, then inputs, then outputs. -/
def localParameters (task : Task) : Except Error (List Parameter) := do
  let inputs ← task.inputs.toParameters .input
  let outputs ← task.outputs.toParameters .output
  return task.rawParameters ++ inputs ++ outputs

def hasLocalParameters (task : Task) : Bool :=
  !task.rawParameters.isEmpty || !task.inputs.isEmpty || !task.outputs.isEmpty

def isSwitch (task : Task) : Bool := task.kind.type == TaskKind.switchType

def relationName (pre post : Task) : String := pre.name ++ " -> " ++ post.name

/-- Limits are written for the kinds that have them; minus one is no limit. -/
def workerLimit (task : Task) (limit : Option Int) : Option Int :=
  if task.kind.hasWorkerLimits then some (limit.getD (-1)) else none

def inspect (task : Task) : String :=
  "Task \x7b name: " ++ Text.quoted task.name ++ ", code: " ++
    toString task.code ++ ", version: " ++ toString task.version ++
    ", task_type: " ++ Text.quoted task.kind.type ++ ", .. \x7d"

end Task

end Orchestration
