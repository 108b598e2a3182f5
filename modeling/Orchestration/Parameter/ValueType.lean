import Orchestration.Named

namespace Orchestration

inductive ValueType where
  | varchar
  | long
  | integer
  | float
  | double
  | date
  | time
  | timestamp
  | boolean
  | list
  | file
deriving DecidableEq

namespace ValueType

def name : ValueType → String
  | varchar => "VARCHAR"
  | long => "LONG"
  | integer => "INTEGER"
  | float => "FLOAT"
  | double => "DOUBLE"
  | date => "DATE"
  | time => "TIME"
  | timestamp => "TIMESTAMP"
  | boolean => "BOOLEAN"
  | list => "LIST"
  | file => "FILE"

instance : Named ValueType where
  all := [varchar, long, integer, float, double, date, time, timestamp, boolean,
    list, file]
  name := name
  complete value := by cases value <;> decide
  distinct := by decide

/-- The values of a text type are texts. -/
def IsText (type : ValueType) : Prop :=
  type ≠ integer ∧ type ≠ float ∧ type ≠ boolean

instance (type : ValueType) : Decidable type.IsText := by
  unfold IsText
  infer_instance

end ValueType

inductive Direction where
  | input
  | output
deriving DecidableEq

namespace Direction

def name : Direction → String
  | input => "IN"
  | output => "OUT"

instance : Named Direction where
  all := [input, output]
  name := name
  complete value := by cases value <;> decide
  distinct := by decide

end Direction

end Orchestration
