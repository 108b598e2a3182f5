import Orchestration.Gateway.Error
import Orchestration.Json.Printer
import Orchestration.Parameter.ValueType
import Orchestration.Task.Check
import Orchestration.Text.Printable

namespace Orchestration

/-- Why arguments are refused. -/
inductive ParameterFault where
  | noImplicitType (value : Json)
  | notConvertible (value : Json) (type : ValueType)
  | unknownWarningType (text : String)
  | unknownExecutionType (text : String)
  | unknownReleaseState (text : String)
  | negativeTimeout (minutes : Int)
  | wrongFieldCount (crontab : String)
  | unreadableMoment (text : String)
  | contentRequired (resource : String)
  | userRequiredToSave (resource : String)
  | userRequiredToResolve (resource : String)
  | conditionRequired (check : HttpCheck)
  | severalDefaults
  | unsupportedSuffix (suffix : String) (supported : List String)
  | workflowRequired (task : String)
  | workflowRequiredFor (kind : String)
  | noSwitchVariable
  | other (text : String)
deriving DecidableEq

inductive PluginFault where
  | noPlugin (body : String)
  | notInMemory (path : String)
  | notFound (path : String)
  | denied (path : String)
  | unreadable (path reason : String)
  | other (text : String)
deriving DecidableEq

inductive Error where
  | parameter (fault : ParameterFault)
  | duplicateTask (task : String) (code : Int) (workflow : String)
  | taskNotFound (code : Int)
  | taskNameNotFound (name : String)
  | plugin (fault : PluginFault)
  | gateway (error : Gateway.Error)
  | serialization
deriving DecidableEq

/-- Crontabs have seconds, minutes, hours, days, months, weekdays and years. -/
def crontabFields : Nat := 7

namespace ParameterFault

def message : ParameterFault → String
  | noImplicitType value =>
      "Can not infer parameter type for value " ++ value.compact ++
        ", wrap it in an explicit data type"
  | notConvertible value type =>
      "Can not convert value " ++ value.compact ++ " to parameter type " ++
        type.name
  | unknownWarningType text =>
      "parameter warning_type with unexpected value " ++ Text.quoted text ++
        ", expected one of FAILURE, SUCCESS, ALL, NONE"
  | unknownExecutionType text =>
      "parameter execution_type with unexpected value " ++ Text.quoted text ++
        ", expected one of PARALLEL, SERIAL_WAIT, SERIAL_DISCARD, SERIAL_PRIORITY"
  | unknownReleaseState text =>
      "parameter release_state only supports online or offline but got " ++
        Text.quoted text
  | negativeTimeout minutes =>
      "workflow timeout must not be negative but got " ++ toString minutes
  | wrongFieldCount crontab =>
      "invalid schedule, expect crontab with " ++ toString crontabFields ++
        " fields but got " ++ Text.quoted crontab
  | unreadableMoment text =>
      "can not parse datetime " ++ text ++
        ", expected YYYY-MM-DD or YYYY-MM-DD HH:MM:SS"
  | contentRequired resource =>
      "`content` is required when creating or updating resource " ++ resource
  | userRequiredToSave resource =>
      "`user` is required when creating or updating resource " ++ resource
  | userRequiredToResolve resource =>
      "`user` is required when resolving resource " ++ resource ++
        ", assign the task to a workflow"
  | conditionRequired check =>
      "parameter condition is required when http_check_condition is " ++
        check.name
  | severalDefaults => "switch condition can only have one default branch"
  | unsupportedSuffix suffix supported =>
      "task does not support files with suffix " ++ suffix ++
        ", only supports " ++ ", ".intercalate supported
  | workflowRequired task =>
      "task " ++ task ++
        " must be created with a workflow or inside a workflow scope"
  | workflowRequiredFor kind => "a workflow must be provided for task " ++ kind
  | noSwitchVariable =>
      "a global parameter or at least one task local parameter is required " ++
        "when the workflow contains a switch task"
  | other text => text

end ParameterFault

namespace PluginFault

def message : PluginFault → String
  | noPlugin body =>
      "task body " ++ body ++ " is a file, but no resource plugin is configured"
  | notInMemory path => path ++ " is not in memory"
  | notFound path => path ++ " is not found"
  | denied path => "You don't have permission to access " ++ path
  | unreadable path reason => "Failed to read " ++ path ++ ": " ++ reason
  | other text => text

end PluginFault

inductive ErrorKind where
  | parameter
  | notFound
  | remoteCall
  | plugin
deriving DecidableEq

namespace ErrorKind

def name : ErrorKind → String
  | parameter => "parameter"
  | notFound => "not_found"
  | remoteCall => "remote_call"
  | plugin => "plugin"

end ErrorKind

namespace Error

def kind : Error → ErrorKind
  | parameter _ => .parameter
  | duplicateTask _ _ _ => .parameter
  | taskNotFound _ => .notFound
  | taskNameNotFound _ => .notFound
  | plugin _ => .plugin
  | gateway error =>
      match error.kind with
      | .notFound => .notFound
      | .invalidInput => .parameter
      | _ => .remoteCall
  | serialization => .parameter

def message : Error → String
  | parameter fault => "invalid parameter: " ++ fault.message
  | duplicateTask task code workflow =>
      "task " ++ task ++ " with code " ++ toString code ++
        " is already registered in workflow " ++ workflow
  | taskNotFound code => "task with code " ++ toString code ++ " not found"
  | taskNameNotFound name => "can not find task with name " ++ name
  | plugin fault => "resource plugin error: " ++ fault.message
  | gateway error => "gateway error: " ++ error.text
  | serialization => "serialization error"

end Error

end Orchestration
