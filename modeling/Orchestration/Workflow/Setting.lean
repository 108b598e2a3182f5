import Orchestration.Error
import Orchestration.Text.Basic

namespace Orchestration

open Text

inductive WarningType where
  | failure
  | success
  | all
  | none
deriving DecidableEq

namespace WarningType

def name : WarningType → String
  | failure => "FAILURE"
  | success => "SUCCESS"
  | all => "ALL"
  | none => "NONE"

instance : Named WarningType where
  all := [failure, success, all, none]
  name := name
  complete value := by cases value <;> decide
  distinct := by decide

/-- Blanks around the name and the case of its letters do not count. -/
def read (text : String) : Except Error WarningType :=
  match Named.ofName? (upper (trimmed text)) with
  | some value => .ok value
  | Option.none => .error (.parameter (.unknownWarningType text))

end WarningType

inductive ExecutionType where
  | parallel
  | serialWait
  | serialDiscard
  | serialPriority
deriving DecidableEq

namespace ExecutionType

def name : ExecutionType → String
  | parallel => "PARALLEL"
  | serialWait => "SERIAL_WAIT"
  | serialDiscard => "SERIAL_DISCARD"
  | serialPriority => "SERIAL_PRIORITY"

instance : Named ExecutionType where
  all := [parallel, serialWait, serialDiscard, serialPriority]
  name := name
  complete value := by cases value <;> decide
  distinct := by decide

/-- Blanks around the name and the case of its letters do not count. -/
def read (text : String) : Except Error ExecutionType :=
  match Named.ofName? (upper (trimmed text)) with
  | some value => .ok value
  | none => .error (.parameter (.unknownExecutionType text))

end ExecutionType

inductive ReleaseState where
  | online
  | offline
deriving DecidableEq

namespace ReleaseState

def name : ReleaseState → String
  | online => "online"
  | offline => "offline"

instance : Named ReleaseState where
  all := [online, offline]
  name := name
  complete value := by cases value <;> decide
  distinct := by decide

def code : ReleaseState → Int
  | online => 1
  | offline => 0

/-- The case of the letters does not count, but blanks do. -/
def read (text : String) : Except Error ReleaseState :=
  match Named.ofName? (lower text) with
  | some value => .ok value
  | none => .error (.parameter (.unknownReleaseState text))

end ReleaseState

end Orchestration
