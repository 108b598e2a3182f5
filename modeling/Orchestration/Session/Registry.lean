import Orchestration.Session.State

namespace Orchestration

open Gateway (Server)

/-! The objects of a session under names. A name that is given again means the
new object from then on. -/

structure Registry where
  session : Session := {}
  gateways : List (String × GatewayId) := []
  workflows : List (String × WorkflowId) := []
  tasks : List (String × TaskId) := []
  plugins : List (String × Plugin) := []

namespace Registry

/-- The gateway of a name; it is there from the first use of the name on. -/
def gateway (registry : Registry) (name : String) : GatewayId × Registry :=
  match registry.gateways.lookup name with
  | some id => (id, registry)
  | none =>
      let (id, session) := registry.session.addGateway {}
      (id, { registry with
        session := session
        gateways := (name, id) :: registry.gateways })

/-- Nobody holds the workflow of the name any more, if there is one. -/
def releaseWorkflow (registry : Registry) (name : String) : Registry :=
  match registry.workflows.lookup name with
  | some id =>
      { registry with
        session := registry.session.release id
        workflows := registry.workflows.filter (·.1 ≠ name) }
  | none => registry

def nameWorkflow (registry : Registry) (name : String) (id : WorkflowId) :
    Registry :=
  let registry := registry.releaseWorkflow name
  { registry with workflows := (name, id) :: registry.workflows }

def nameTask (registry : Registry) (name : String) (id : TaskId) : Registry :=
  { registry with tasks := (name, id) :: registry.tasks }

def namePlugin (registry : Registry) (name : String) (plugin : Plugin) :
    Registry :=
  { registry with plugins := (name, plugin) :: registry.plugins }

end Registry

end Orchestration
