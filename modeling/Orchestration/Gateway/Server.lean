import Orchestration.Error
import Orchestration.Gateway.Request
import Orchestration.Gateway.Requirement
import Orchestration.Text.Basic

namespace Orchestration.Gateway

/-! A gateway in memory. It hands out codes, answers from its tables, and keeps
what was submitted to it. New entries of a table stand before old ones. -/

structure TaskKey where
  project : String
  workflow : String
  task : String
deriving DecidableEq

structure WorkflowKey where
  project : String
  workflow : String
deriving DecidableEq

structure Upload where
  user : String
  name : String
  content : String
deriving DecidableEq

structure Grant where
  user : String
  project : String
  description : Option String
deriving DecidableEq

def firstCode : Int := 1000

structure Server where
  version : String := "3.2.0"
  nextCode : Int := firstCode
  identities : List (TaskKey × TaskIdentity) := []
  environments : List (String × Int) := []
  resources : List (String × String) := []
  datasources : List (String × DatasourceInfo) := []
  workflows : List (WorkflowKey × WorkflowInfo) := []
  failures : List (Method × String) := []
  calls : List Method := []
  uploads : List Upload := []
  users : List UserDefinition := []
  grants : List Grant := []
  submissions : List WorkflowDefinition := []
  starts : List WorkflowStart := []
deriving DecidableEq

namespace Server

instance : Inhabited Server := ⟨{}⟩

def withVersion (server : Server) (version : String) : Server :=
  { server with version := version }

def withEnvironment (server : Server) (name : String) (code : Int) : Server :=
  { server with environments := (name, code) :: server.environments }

def withResource (server : Server) (name fullName : String) : Server :=
  { server with resources := (name, fullName) :: server.resources }

def withDatasource (server : Server) (name : String) (info : DatasourceInfo) :
    Server :=
  { server with datasources := (name, info) :: server.datasources }

def withWorkflow (server : Server) (project name : String) (code : Int) :
    Server :=
  { server with
    workflows := (⟨project, name⟩, ⟨code, name⟩) :: server.workflows }

/-- Every later call of the method fails. -/
def withFailure (server : Server) (method : Method) (message : String) :
    Server :=
  { server with failures := (method, message) :: server.failures }

abbrev Reply (α : Type) := Except Error α × Server

def logged (server : Server) (method : Method) : Server :=
  { server with calls := server.calls ++ [method] }

def resourcePath (user name : String) : String :=
  "/dolphinscheduler/" ++ user ++ "/resources/" ++ name

def workflowMissing (project workflow : String) : Error :=
  .notFound ("workflow " ++ workflow ++ " does not exist in " ++ project)

def found (server : Server) (value : Option α) (error : Error) : Reply α :=
  match value with
  | some value => (.ok value, server)
  | none => (.error error, server)

/-- The identity that the server holds for a task, or else a new one. -/
def identify (server : Server) (key : TaskKey) : Reply TaskIdentity :=
  match server.identities.lookup key with
  | some identity => (.ok identity, server)
  | none =>
      let identity : TaskIdentity := ⟨server.nextCode, 0⟩
      (.ok identity,
        { server with
          nextCode := server.nextCode + 1
          identities := (key, identity) :: server.identities })

def store (server : Server) (upload : Upload) : Reply Unit :=
  (.ok (),
    { server with
      resources :=
        (upload.name, resourcePath upload.user upload.name) :: server.resources
      uploads := server.uploads ++ [upload] })

/-- A type that is asked for has to agree in all but the case of letters. -/
def datasource? (server : Server) (name : String) (type : Option String) :
    Option DatasourceInfo :=
  (server.datasources.lookup name).filter fun info =>
    match type with
    | some type => Text.sameLetters info.type type
    | none => true

/-- A user who is known already stays as he is. -/
def enroll (server : Server) (user : UserDefinition) : Reply Unit :=
  if server.users.any fun known => known.name == user.name then
    (.ok (), server)
  else (.ok (), { server with users := server.users ++ [user] })

def grant (server : Server) (grant : Grant) : Reply Unit :=
  (.ok (), { server with grants := server.grants ++ [grant] })

/-- A workflow that is known already keeps its code. -/
def accept (server : Server) (definition : WorkflowDefinition) : Reply Int :=
  let key : WorkflowKey := ⟨definition.project, definition.name⟩
  let accepted :=
    { server with submissions := server.submissions ++ [definition] }
  match server.workflows.lookup key with
  | some info => (.ok info.code, accepted)
  | none =>
      (.ok server.nextCode,
        { accepted with
          nextCode := server.nextCode + 1
          workflows :=
            (key, ⟨server.nextCode, definition.name⟩) :: server.workflows })

def launch (server : Server) (start : WorkflowStart) : Reply Unit :=
  match server.workflows.lookup ⟨start.project, start.workflowName⟩ with
  | some _ => (.ok (), { server with starts := server.starts ++ [start] })
  | none => (.error (workflowMissing start.project start.workflowName), server)

def serve (server : Server) : Request α → Reply α
  | .version => (.ok server.version, server)
  | .taskIdentity project workflow task =>
      server.identify ⟨project, workflow, task⟩
  | .environment name =>
      server.found (server.environments.lookup name)
        (.notFound ("environment " ++ name ++ " does not exist"))
  | .resourceFile user name =>
      server.found
        ((server.resources.lookup name).map fun path => { fullName := path })
        (.notFound
          ("resource " ++ name ++ " does not exist for user " ++ user))
  | .saveResource user name content => server.store ⟨user, name, content⟩
  | .datasource name type =>
      server.found (server.datasource? name type)
        (.notFound ("datasource " ++ name ++ " does not exist"))
  | .workflowInfo _ project workflow =>
      server.found (server.workflows.lookup ⟨project, workflow⟩)
        (workflowMissing project workflow)
  | .saveUser user => server.enroll user
  | .grantProject user name description =>
      server.grant ⟨user, name, description⟩
  | .saveWorkflow definition => server.accept definition
  | .startWorkflow start => server.launch start

/-- Every call is logged, also one that is prepared to fail. -/
def answer (server : Server) (request : Request α) : Reply α :=
  let server := server.logged request.method
  match server.failures.lookup request.method with
  | some message =>
      (.error (.remoteCall request.method.name message), server)
  | none => server.serve request

end Server

/-- An exchange with one gateway. What it did before it failed stays done. -/
abbrev Exchange := ExceptT Orchestration.Error (StateM Server)

namespace Exchange

def ask (request : Request α) : Exchange α := fun server =>
  let (result, server) := server.answer request
  (result.mapError .gateway, server)

def ofExcept (result : Except Orchestration.Error α) : Exchange α :=
  fun server => (result, server)

def run (exchange : Exchange α) (server : Server) :
    Except Orchestration.Error α × Server :=
  exchange server

end Exchange

/-- Whether a gateway has a version that is supported; one that does not
answer has not. -/
def checkVersion (server : Server) : Bool × Server :=
  match server.answer .version with
  | (.ok version, server) => (supports version, server)
  | (.error _, server) => (false, server)

end Orchestration.Gateway
