import Orchestration.Gateway.Record
import Orchestration.Named

namespace Orchestration.Gateway

inductive Method where
  | version
  | taskIdentity
  | environment
  | resourceFile
  | saveResource
  | datasource
  | workflowInfo
  | saveUser
  | grantProject
  | saveWorkflow
  | startWorkflow
deriving DecidableEq

namespace Method

def name : Method → String
  | version => "gateway_version"
  | taskIdentity => "get_code_and_version"
  | environment => "query_environment_info"
  | resourceFile => "query_resources_file_info"
  | saveResource => "create_or_update_resource"
  | datasource => "get_datasource"
  | workflowInfo => "get_workflow_info"
  | saveUser => "create_user"
  | grantProject => "create_or_grant_project"
  | saveWorkflow => "create_or_update_workflow"
  | startWorkflow => "exec_workflow_instance"

instance : Named Method where
  all := [version, taskIdentity, environment, resourceFile, saveResource,
    datasource, workflowInfo, saveUser, grantProject, saveWorkflow,
    startWorkflow]
  name := name
  complete value := by cases value <;> decide
  distinct := by decide

def wireName : Method → String
  | version => "get_gateway_version"
  | method => method.name

end Method

inductive Request : Type → Type where
  | version : Request String
  | taskIdentity (project workflow task : String) : Request TaskIdentity
  | environment (name : String) : Request Int
  | resourceFile (user name : String) : Request ResourceInfo
  | saveResource (user name content : String) : Request Unit
  | datasource (name : String) (type : Option String) : Request DatasourceInfo
  | workflowInfo (user project workflow : String) : Request WorkflowInfo
  | saveUser (user : UserDefinition) : Request Unit
  | grantProject (user name : String) (description : Option String) :
      Request Unit
  | saveWorkflow (definition : WorkflowDefinition) : Request Int
  | startWorkflow (start : WorkflowStart) : Request Unit

namespace Request

def method : Request α → Method
  | version => .version
  | taskIdentity _ _ _ => .taskIdentity
  | environment _ => .environment
  | resourceFile _ _ => .resourceFile
  | saveResource _ _ _ => .saveResource
  | datasource _ _ => .datasource
  | workflowInfo _ _ _ => .workflowInfo
  | saveUser _ => .saveUser
  | grantProject _ _ _ => .grantProject
  | saveWorkflow _ => .saveWorkflow
  | startWorkflow _ => .startWorkflow

def arguments : Request α → Json
  | version => .object []
  | taskIdentity project workflow task =>
      .object [("projectName", .string project),
        ("workflowName", .string workflow), ("taskName", .string task)]
  | environment name => .object [("name", .string name)]
  | resourceFile user name =>
      .object [("userName", .string user), ("name", .string name)]
  | saveResource user name content =>
      .object [("userName", .string user), ("name", .string name),
        ("content", .string content)]
  | datasource name type =>
      .object [("name", .string name), ("type", .ofOption .string type)]
  | workflowInfo user project workflow =>
      .object [("userName", .string user), ("projectName", .string project),
        ("workflowName", .string workflow)]
  | saveUser user => user.toJson
  | grantProject user name description =>
      .object [("userName", .string user), ("name", .string name),
        ("description", .ofOption .string description)]
  | saveWorkflow definition => definition.toJson
  | startWorkflow start => start.toJson

/-- The form of the answer on the wire. -/
@[reducible] def form : Request α → JsonForm α
  | version => inferInstance
  | taskIdentity _ _ _ => inferInstance
  | environment _ => inferInstance
  | resourceFile _ _ => inferInstance
  | saveResource _ _ _ => inferInstance
  | datasource _ _ => inferInstance
  | workflowInfo _ _ _ => inferInstance
  | saveUser _ => inferInstance
  | grantProject _ _ _ => inferInstance
  | saveWorkflow _ => inferInstance
  | startWorkflow _ => inferInstance

end Request

end Orchestration.Gateway
