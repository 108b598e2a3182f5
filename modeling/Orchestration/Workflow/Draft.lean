import Orchestration.Task.Options
import Orchestration.Workflow.Basic

namespace Orchestration

open Text

inductive WorkflowTimeout where
  | minutes (value : Int)
  | duration (value : Duration)
deriving DecidableEq

namespace WorkflowTimeout

def read : Option WorkflowTimeout → Except Error Nat
  | none => .ok 0
  | some (minutes value) =>
      if value < 0 then .error (.parameter (.negativeTimeout value))
      else .ok value.toNat
  | some (duration value) => .ok value.minutes

end WorkflowTimeout

structure WorkflowDraft where
  name : String
  gateway : GatewayId
  defaults : WorkflowDefaults := {}
  description : Option String := none
  user : Option String := none
  project : Option String := none
  workerGroup : Option String := none
  warningType : Option String := none
  warningGroupId : Int := 0
  executionType : Option String := none
  releaseState : Option String := none
  timeout : Option WorkflowTimeout := none
  schedule : Option String := none
  onlineSchedule : Option Bool := none
  start : Option String := none
  finish : Option String := none
  timezone : Option String := none
  parameters : ParameterMap := .empty
  plugin : Option Plugin := none
  resources : List Resource := []

namespace WorkflowDraft

def readOptional (read : String → Except Error α) :
    Option String → Except Error (Option α)
  | none => .ok none
  | some text => (read text).map some

/-- A blank crontab is none. -/
def crontab (draft : WorkflowDraft) : Except Error (Option String) :=
  readOptional Schedule.readCrontab
    (draft.schedule.filter fun text => !(trim text.toList).isEmpty)

/-- Times are read also if there is no crontab that could use them. -/
def build (draft : WorkflowDraft) : Except Error Workflow := do
  let defaults := draft.defaults
  let warningType ←
    WarningType.read (draft.warningType.getD defaults.warningType)
  let executionType ←
    ExecutionType.read (draft.executionType.getD defaults.executionType)
  let releaseState ←
    ReleaseState.read (draft.releaseState.getD defaults.releaseState)
  let timeout ← WorkflowTimeout.read draft.timeout
  let crontab ← draft.crontab
  let start ← readOptional Moment.read draft.start
  let finish ← readOptional Moment.read draft.finish
  return {
    name := draft.name
    description := draft.description
    user := draft.user.getD defaults.user
    project := draft.project.getD defaults.project
    workerGroup := draft.workerGroup.getD defaults.workerGroup
    warningType := warningType
    warningGroupId := draft.warningGroupId
    executionType := executionType
    releaseState := releaseState
    timeout := timeout
    schedule := crontab.map fun crontab => ⟨crontab, start, finish⟩
    onlineSchedule := draft.onlineSchedule.getD crontab.isSome
    timezone := draft.timezone.getD defaults.timeZone
    plugin := draft.plugin
    resources := draft.resources
    gateway := draft.gateway
    defaults := defaults
    parameters := draft.parameters }

end WorkflowDraft

end Orchestration
