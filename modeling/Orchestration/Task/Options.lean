import Orchestration.Named

namespace Orchestration

def nanosecondsPerSecond : Nat := 1000000000

structure Duration where
  seconds : Nat
  nanoseconds : Nat
  valid : nanoseconds < nanosecondsPerSecond
deriving DecidableEq

namespace Duration

/-- Nanoseconds that make up whole seconds count as seconds. -/
def ofParts (seconds nanoseconds : Nat) : Duration where
  seconds := seconds + nanoseconds / nanosecondsPerSecond
  nanoseconds := nanoseconds % nanosecondsPerSecond
  valid := Nat.mod_lt nanoseconds (by decide)

def isZero (duration : Duration) : Bool :=
  duration.seconds == 0 && duration.nanoseconds == 0

/-- Whole minutes; a minute that has begun counts. -/
def minutes (duration : Duration) : Nat :=
  if duration.seconds % 60 ≠ 0 ∨ duration.nanoseconds ≠ 0 then
    duration.seconds / 60 + 1
  else duration.seconds / 60

end Duration

inductive TaskFlag where
  | yes
  | no
deriving DecidableEq

namespace TaskFlag

def name : TaskFlag → String
  | yes => "YES"
  | no => "NO"

instance : Named TaskFlag where
  all := [yes, no]
  name := name
  complete value := by cases value <;> decide
  distinct := by decide

instance : Inhabited TaskFlag := ⟨yes⟩

def ofBool (value : Bool) : TaskFlag := if value then yes else no

end TaskFlag

inductive TaskPriority where
  | highest
  | high
  | medium
  | low
  | lowest
deriving DecidableEq

namespace TaskPriority

def name : TaskPriority → String
  | highest => "HIGHEST"
  | high => "HIGH"
  | medium => "MEDIUM"
  | low => "LOW"
  | lowest => "LOWEST"

instance : Named TaskPriority where
  all := [highest, high, medium, low, lowest]
  name := name
  complete value := by cases value <;> decide
  distinct := by decide

instance : Inhabited TaskPriority := ⟨medium⟩

end TaskPriority

inductive TimeoutFlag where
  | opened
  | closed
deriving DecidableEq

namespace TimeoutFlag

def name : TimeoutFlag → String
  | opened => "OPEN"
  | closed => "CLOSE"

instance : Named TimeoutFlag where
  all := [opened, closed]
  name := name
  complete value := by cases value <;> decide
  distinct := by decide

end TimeoutFlag

inductive TimeoutStrategy where
  | warn
  | failed
  | warnFailed
deriving DecidableEq

namespace TimeoutStrategy

def name : TimeoutStrategy → String
  | warn => "WARN"
  | failed => "FAILED"
  | warnFailed => "WARNFAILED"

instance : Named TimeoutStrategy where
  all := [warn, failed, warnFailed]
  name := name
  complete value := by cases value <;> decide
  distinct := by decide

end TimeoutStrategy

/-- The tasks to go on with after success and after failure. -/
structure ConditionResult where
  success : List Int := []
  failed : List Int := []
deriving DecidableEq

namespace ConditionResult

/-- An empty list of targets is written as one empty text. -/
def targets (codes : List Int) : Json :=
  if codes.isEmpty then .strings [""] else .integers codes

def toJson (result : ConditionResult) : Json :=
  .object [("successNode", targets result.success),
    ("failedNode", targets result.failed)]

end ConditionResult

structure TaskOptions where
  description : Option String := none
  flag : TaskFlag := .yes
  priority : TaskPriority := .medium
  workerGroup : Option String := none
  environment : Option String := none
  delayMinutes : Nat := 0
  retryTimes : Nat := 0
  retryInterval : Nat := 1
  timeout : Option Duration := none
  timeoutStrategy : Option TimeoutStrategy := none
  groupId : Int := 0
  groupPriority : Int := 0
  cached : Bool := false
  cpuQuota : Option Int := none
  memoryMax : Option Int := none
  conditionResult : ConditionResult := {}
  dependence : SortedMap String Json := .empty
  waitStartTimeout : SortedMap String Json := .empty
deriving DecidableEq

namespace TaskOptions

instance : Inhabited TaskOptions := ⟨{}⟩

def timeoutFlag (options : TaskOptions) : TimeoutFlag :=
  match options.timeout with
  | some timeout => if timeout.isZero then .closed else .opened
  | none => .closed

def timeoutMinutes (options : TaskOptions) : Nat :=
  match options.timeout with
  | some timeout => timeout.minutes
  | none => 0

end TaskOptions

end Orchestration
