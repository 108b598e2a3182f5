import Orchestration.Error

namespace Orchestration

/-! Handles of the objects of a session, which may be alike and still be
different, and switches: the task to go on with depends on conditions. -/

structure GatewayId where
  index : Nat
deriving DecidableEq

structure WorkflowId where
  index : Nat
deriving DecidableEq

structure TaskId where
  index : Nat
deriving DecidableEq

/-- A branch without a condition is the default. -/
structure Branch where
  task : TaskId
  condition : Option String
deriving DecidableEq

namespace Branch

def isDefault (branch : Branch) : Bool := branch.condition.isNone

end Branch

structure Switch where
  branches : List Branch
  single : (branches.filter (·.isDefault)).length ≤ 1
deriving DecidableEq

namespace Switch

def ofBranches (branches : List Branch) : Except Error Switch :=
  if h : (branches.filter (·.isDefault)).length ≤ 1 then .ok ⟨branches, h⟩
  else .error (.parameter .severalDefaults)

def tasks (switch : Switch) : List TaskId := switch.branches.map (·.task)

def conditional? (code : TaskId → Int) (branch : Branch) : Option Json :=
  branch.condition.map fun condition =>
    .object [("condition", .string condition),
      ("nextNode", .ofInt (code branch.task))]

/-- Conditions in order, then the default. -/
def result (switch : Switch) (code : TaskId → Int) : Json :=
  let conditional :=
    ("dependTaskList",
      Json.array (switch.branches.filterMap (conditional? code)))
  match switch.branches.find? (·.isDefault) with
  | some branch =>
      .object [conditional, ("nextNode", .ofInt (code branch.task))]
  | none => .object [conditional]

end Switch

end Orchestration
