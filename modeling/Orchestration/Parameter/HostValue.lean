import Orchestration.Parameter.ValueType
import Orchestration.Json.Record
import Orchestration.Number.Rounding

namespace Orchestration

structure TypedValue where
  type : ValueType
  value : Json
deriving DecidableEq

inductive HostValue where
  | null
  | bool (value : Bool)
  | int (value : Int64)
  | float (value : Double)
  | text (value : String)
  | typed (value : TypedValue)
  | json (value : Json)
deriving DecidableEq

namespace TypedValue

def same (a b : TypedValue) : Bool := a.type == b.type && a.value.same b.value

def toJson (typed : TypedValue) : Json :=
  .object [("type", Named.toJson typed.type), ("value", typed.value)]

def decode? (document : Json.Document) : Option TypedValue := do
  let fields ← document.fields? ["type", "value"]
  return ⟨← fields.required "type" Named.decode?,
    ← fields.required "value" Json.Document.value?⟩

instance : JsonForm TypedValue := ⟨toJson, decode?⟩

end TypedValue

namespace HostValue

instance : Inhabited HostValue := ⟨null⟩

/-- Equality as numbers: no `nan` equals itself. -/
def same : HostValue → HostValue → Bool
  | .null, .null => true
  | .bool a, .bool b => a == b
  | .int a, .int b => a == b
  | .float a, .float b => a.equal b
  | .text a, .text b => a == b
  | .typed a, .typed b => a.same b
  | .json a, .json b => a.same b
  | _, _ => false

/-- Integers beyond the signed words become doubles. -/
def ofJson : Json → HostValue
  | .null => .null
  | .bool value => .bool value
  | .number (.integer value) =>
      if FitsSigned value then .int (.ofInt value) else .float (.ofInt value)
  | .number (.real value) => .float (.finite value)
  | .string value => .text value
  | .array items => .json (.array items)
  | .object fields => .json (.object fields)

/-- The value without any conversion; JSON has no infinite numbers. -/
def toRawJson : HostValue → Json
  | .null => .null
  | .bool value => .bool value
  | .int value => .ofInt value.toInt
  | .float (.finite value) => .number (.real value)
  | .float _ => .null
  | .text value => .string value
  | .typed wrapped => wrapped.value
  | .json value => value

/-- Nothing, or the empty text. -/
def isBlank : HostValue → Bool
  | .null => true
  | .text value => value.isEmpty
  | _ => false

def unwrapped : HostValue → HostValue
  | .typed wrapped => ofJson wrapped.value
  | value => value

end HostValue

end Orchestration
