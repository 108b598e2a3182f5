import Orchestration.Session.Linking

namespace Orchestration

def SortedSet.toJson (codes : SortedSet Int) : Json := .integers codes.toList

namespace Gateway.Server

def report (server : Server) : Json :=
  .object [("calls", .strings (server.calls.map Method.name)),
    ("uploads", .array (server.uploads.map fun upload =>
      .strings [upload.user, upload.name, upload.content])),
    ("users", .array (server.users.map UserDefinition.toJson)),
    ("projects", .array (server.grants.map fun grant =>
      .array [.string grant.user, .string grant.project,
        .ofOption .string grant.description])),
    ("submissions",
      .array (server.submissions.map WorkflowDefinition.toJson)),
    ("starts", .array (server.starts.map WorkflowStart.toJson))]

end Gateway.Server

namespace Schedule

def report (schedule : Schedule) : Json :=
  let time (moment : Option Moment) : Json :=
    .ofOption .string (moment.map Moment.text)
  .array [.string schedule.crontab, time schedule.start, time schedule.finish]

end Schedule

def Relation.report (relation : Relation) : Json :=
  .array [.ofInt relation.pre, .ofInt relation.post, .string relation.name,
    .bool relation.isRoot]

def ParameterMap.report (map : ParameterMap) : Json :=
  .array (map.entries.map fun (name, value) =>
    .array [.string name, value.toRawJson])

namespace Workflow

def report (workflow : Workflow) : Json :=
  .object [("name", .string workflow.name),
    ("description", .ofOption .string workflow.description),
    ("user", .string workflow.user),
    ("project", .string workflow.project),
    ("worker_group", .string workflow.workerGroup),
    ("warning_type", Named.toJson workflow.warningType),
    ("warning_group_id", .ofInt workflow.warningGroupId),
    ("execution_type", Named.toJson workflow.executionType),
    ("release_state",
      .strings [workflow.releaseState.name,
        toString workflow.releaseState.code]),
    ("timeout", .ofNat workflow.timeout),
    ("schedule", .ofOption Schedule.report workflow.schedule),
    ("online_schedule", .bool workflow.onlineSchedule),
    ("timezone", .string workflow.timezone),
    ("plugin", .bool workflow.plugin.isSome),
    ("resources", .array (workflow.resources.map Resource.toJson)),
    ("code", .ofOption .ofInt workflow.code)]

end Workflow

def TaskKind.report (kind : TaskKind) : Json :=
  .object [("task_type", .string kind.type),
    ("ignored", .strings (kind.ignoredFields.map StandardField.name)),
    ("worker_resources", .bool kind.hasWorkerLimits),
    ("extensions", .strings kind.fileSuffixes)]

namespace Session

def names (session : Session) (ids : List TaskId) : Json :=
  .strings (ids.map fun id => (session.task id).name)

def taskEntry (session : Session) (id : TaskId) : Json :=
  .array [.string (session.task id).name, .ofInt (session.task id).code]

def taskEntries (session : Session) (ids : List TaskId) : Json :=
  .array (ids.map session.taskEntry)

def branchReport (session : Session) (branch : Branch) : Json :=
  .array [.string (session.task branch.task).name,
    .ofOption .string branch.condition, .bool branch.isDefault]

def switchReport (session : Session) (switch : Switch) : Json :=
  .object [("tasks", session.names switch.tasks),
    ("branches", .array (switch.branches.map session.branchReport)),
    ("result", switch.result fun id => (session.task id).code)]

def taskReport (session : Session) (id : TaskId) : Json :=
  let task := session.task id
  let owner := (session.owner id).map fun id => (session.workflow id).name
  .object [("name", .string task.name), ("code", .ofInt task.code),
    ("version", .ofInt task.version), ("type", .string task.kind.type),
    ("upstream_codes", task.predecessors.toJson),
    ("downstream_codes", task.successors.toJson),
    ("upstream", session.names (session.predecessors id)),
    ("downstream", session.names (session.successors id)),
    ("workflow", .ofOption .string owner),
    ("timeout_flag", Named.toJson task.options.timeoutFlag),
    ("body", .ofOption .string task.kind.body?),
    ("description", .ofOption .string task.options.description)]

end Session

end Orchestration
