import Orchestration.Task.Basic
import Orchestration.Workflow.Basic

namespace Orchestration

open Gateway (Exchange Server)

/-! Everything that lives while workflows are built: gateways, workflows and
tasks by their handles, and the workflows in scope, innermost first. -/

structure Session where
  gateways : List Server := []
  workflows : List Workflow := []
  tasks : List Task := []
  scopes : List WorkflowId := []
  /-- The present moment, as schedules write it. -/
  now : String := Moment.last.text

namespace Session

instance : Inhabited Session := ⟨{}⟩

def gateway (session : Session) (id : GatewayId) : Server :=
  session.gateways.getD id.index default

def workflow (session : Session) (id : WorkflowId) : Workflow :=
  session.workflows.getD id.index default

def task (session : Session) (id : TaskId) : Task :=
  session.tasks.getD id.index default

def updateGateway (session : Session) (id : GatewayId)
    (update : Server → Server) : Session :=
  { session with gateways := session.gateways.modify id.index update }

def updateWorkflow (session : Session) (id : WorkflowId)
    (update : Workflow → Workflow) : Session :=
  { session with workflows := session.workflows.modify id.index update }

def updateTask (session : Session) (id : TaskId) (update : Task → Task) :
    Session :=
  { session with tasks := session.tasks.modify id.index update }

def addGateway (session : Session) (server : Server) : GatewayId × Session :=
  (⟨session.gateways.length⟩,
    { session with gateways := session.gateways ++ [server] })

def addWorkflow (session : Session) (workflow : Workflow) :
    WorkflowId × Session :=
  (⟨session.workflows.length⟩,
    { session with workflows := session.workflows ++ [workflow] })

def newTask (session : Session) (task : Task) : TaskId × Session :=
  (⟨session.tasks.length⟩, { session with tasks := session.tasks ++ [task] })

/-! A workflow lives as long as somebody holds it or it is in scope. -/

def isAlive (session : Session) (id : WorkflowId) : Bool :=
  (session.workflow id).held || session.scopes.contains id

def release (session : Session) (id : WorkflowId) : Session :=
  session.updateWorkflow id fun workflow => { workflow with held := false }

def owner (session : Session) (id : TaskId) : Option WorkflowId :=
  (session.task id).workflow.filter session.isAlive

/-- Tasks that are built without a workflow go into this one. -/
def current (session : Session) : Option WorkflowId := session.scopes.head?

def enter (session : Session) (id : WorkflowId) : Session :=
  { session with scopes := id :: session.scopes }

def leave (session : Session) : Session :=
  { session with scopes := session.scopes.tail }

/-- Runs something inside the scope of a workflow. -/
def within (id : WorkflowId) (body : Session → α × Session)
    (session : Session) : α × Session :=
  let (result, session) := body (session.enter id)
  (result, session.leave)

end Session

/-! Actions on a session. What an action did before it failed stays done. -/

abbrev Action := ExceptT Error (StateM Session)

namespace Action

def run (action : Action α) (session : Session) : Except Error α × Session :=
  action session

def ofExcept (result : Except Error α) : Action α :=
  fun session => (result, session)

def exchange (id : GatewayId) (exchange : Exchange α) : Action α :=
  fun session =>
    let (result, server) := exchange.run (session.gateway id)
    (result, session.updateGateway id fun _ => server)

def ask (id : GatewayId) (request : Gateway.Request α) : Action α :=
  Action.exchange id (Exchange.ask request)

end Action

end Orchestration
