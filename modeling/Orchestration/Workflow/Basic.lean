import Orchestration.Calendar.Schedule
import Orchestration.Task.Switch
import Orchestration.Parameter.Map
import Orchestration.Relation
import Orchestration.Resource.Basic
import Orchestration.Resource.Plugin
import Orchestration.Workflow.Defaults
import Orchestration.Workflow.Setting

namespace Orchestration

structure Workflow where
  name : String
  description : Option String := none
  user : String
  project : String
  workerGroup : String
  warningType : WarningType := .none
  warningGroupId : Int := 0
  executionType : ExecutionType := .parallel
  releaseState : ReleaseState := .online
  timeout : Nat := 0
  schedule : Option Schedule := none
  onlineSchedule : Bool := false
  timezone : String
  plugin : Option Plugin := none
  resources : List Resource := []
  gateway : GatewayId
  defaults : WorkflowDefaults := {}
  tasks : SortedMap Int TaskId := .empty
  relations : RelationSet := .empty
  parameters : ParameterMap := .empty
  code : Option Int := none
  /-- Whether somebody outside the session still has the workflow at hand. -/
  held : Bool := true

namespace Workflow

instance : Inhabited Workflow :=
  ⟨{ name := "", user := "", project := "", workerGroup := "", timezone := "",
     gateway := ⟨0⟩, held := false }⟩

/-- Global parameters are texts that go in, and carry their values raw. -/
def globalParameters (workflow : Workflow) : List Parameter :=
  workflow.parameters.entries.map fun (name, value) =>
    ⟨name, .input, .varchar, value.toRawJson⟩

def setParameter (workflow : Workflow) (name : String) (value : HostValue) :
    Workflow :=
  { workflow with parameters := workflow.parameters.insert name value }

/-- Without a task, and without the relations that touch it. -/
def withoutTask (workflow : Workflow) (code : Int) : Workflow :=
  { workflow with
    tasks := workflow.tasks.erase code
    relations := workflow.relations.without code }

/-- Every task that has no predecessor gets a root, and no other. -/
def withRoots (workflow : Workflow) : Workflow :=
  { workflow with
    relations := workflow.relations.withRoots workflow.tasks.keys }

def scheduleDescriptor (workflow : Workflow) (now : String) : Option Json :=
  workflow.schedule.map fun schedule =>
    schedule.descriptor workflow.timezone now

/-- A list that stands for no tasks at all. -/
def emptyList : Json := .array [.object []]

def relationList (workflow : Workflow) : Json :=
  if workflow.tasks.isEmpty then emptyList
  else .array (workflow.relations.toList.map Relation.toJson)

def startRequest (workflow : Workflow) : WorkflowStart where
  user := workflow.user
  project := workflow.project
  workflowName := workflow.name
  workerGroup := workflow.workerGroup
  warningType := workflow.warningType.name
  warningGroupId := workflow.warningGroupId

def inspect (workflow : Workflow) : String :=
  "Workflow \x7b name: " ++ Text.quoted workflow.name ++ ", project: " ++
    Text.quoted workflow.project ++ ", user: " ++ Text.quoted workflow.user ++
    ", .. \x7d"

end Workflow

end Orchestration
