import Orchestration.Json.Basic
import Orchestration.Task.Options

namespace Orchestration

structure TaskDefinition where
  code : Int
  name : String
  version : Int
  description : Option String
  delayTime : Nat
  taskType : String
  taskParams : SortedMap String Json
  flag : TaskFlag
  taskPriority : TaskPriority
  workerGroup : String
  environmentCode : Option Int
  failRetryTimes : Nat
  failRetryInterval : Nat
  timeoutFlag : TimeoutFlag
  timeoutNotifyStrategy : Option TimeoutStrategy
  timeout : Nat
  isCache : TaskFlag
  taskGroupId : Int
  taskGroupPriority : Int
  cpuQuota : Option Int
  memoryMax : Option Int
deriving DecidableEq

namespace TaskDefinition

/-- A field that is left out if it has no value. -/
def field? (name : String) : Option Int → List (String × Json)
  | some value => [(name, .ofInt value)]
  | none => []

def toJson (definition : TaskDefinition) : Json :=
  .object
    ([("code", .ofInt definition.code),
      ("name", .string definition.name),
      ("version", .ofInt definition.version),
      ("description", .ofOption .string definition.description),
      ("delayTime", .ofNat definition.delayTime),
      ("taskType", .string definition.taskType),
      ("taskParams", .ofMap definition.taskParams),
      ("flag", Named.toJson definition.flag),
      ("taskPriority", Named.toJson definition.taskPriority),
      ("workerGroup", .string definition.workerGroup),
      ("environmentCode", .ofOption .ofInt definition.environmentCode),
      ("failRetryTimes", .ofNat definition.failRetryTimes),
      ("failRetryInterval", .ofNat definition.failRetryInterval),
      ("timeoutFlag", Named.toJson definition.timeoutFlag),
      ("timeoutNotifyStrategy",
        .ofOption Named.toJson definition.timeoutNotifyStrategy),
      ("timeout", .ofNat definition.timeout),
      ("isCache", Named.toJson definition.isCache),
      ("taskGroupId", .ofInt definition.taskGroupId),
      ("taskGroupPriority", .ofInt definition.taskGroupPriority)] ++
      field? "cpuQuota" definition.cpuQuota ++
      field? "memoryMax" definition.memoryMax)

end TaskDefinition

end Orchestration
