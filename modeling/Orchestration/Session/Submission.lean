import Orchestration.Session.Document

namespace Orchestration.Session

/-- Asks for the version; what comes back changes nothing. -/
def checkVersion (id : GatewayId) : Action Bool := fun session =>
  let (supported, server) := Gateway.checkVersion (session.gateway id)
  (.ok supported, session.updateGateway id fun _ => server)

/-- The user and the project have to be there before the workflow. -/
def ensureOwner (workflow : Workflow) : Action Unit := do
  Action.ask workflow.gateway
    (.saveUser (workflow.defaults.userDefinition workflow.user))
  Action.ask workflow.gateway
    (.grantProject workflow.user workflow.project none)

def uploadAll (workflow : Workflow) : List Resource → Action Unit
  | [] => return ()
  | resource :: rest => do
      Action.exchange workflow.gateway (resource.save workflow.user)
      uploadAll workflow rest

/-- Uploads that succeed stay, also if a later step fails. -/
def submit (id : WorkflowId) : Action Int := do
  let workflow := (← get).workflow id
  let _ ← checkVersion workflow.gateway
  ensureOwner workflow
  Action.ofExcept ((← get).validate id)
  uploadAll workflow workflow.resources
  let definition ← definition id
  let code ← Action.ask workflow.gateway (.saveWorkflow definition)
  modify fun session => session.updateWorkflow id fun workflow =>
    { workflow with code := some code }
  return code

def start (id : WorkflowId) : Action Unit := do
  let workflow := (← get).workflow id
  Action.ask workflow.gateway (.startWorkflow workflow.startRequest)

def submitAndStart (id : WorkflowId) : Action Int := do
  let code ← submit id
  start id
  return code

end Orchestration.Session
