import Orchestration.Parameter.Conversion

namespace Orchestration

structure Parameter where
  name : String
  direction : Direction
  type : ValueType
  value : Json
deriving DecidableEq

namespace Parameter

def infer (direction : Direction) (name : String) (value : HostValue) :
    Except Error Parameter :=
  value.infer.map fun typed => ⟨name, direction, typed.type, typed.value⟩

def inferAll (direction : Direction) :
    List (String × HostValue) → Except Error (List Parameter)
  | [] => .ok []
  | (name, value) :: rest => do
      let parameter ← infer direction name value
      let parameters ← inferAll direction rest
      return parameter :: parameters

def toJson (parameter : Parameter) : Json :=
  .object [("prop", .string parameter.name),
    ("direct", Named.toJson parameter.direction),
    ("type", Named.toJson parameter.type), ("value", parameter.value)]

def decode? (document : Json.Document) : Option Parameter := do
  let fields ← document.fields? ["prop", "direct", "type", "value"]
  return ⟨← fields.required "prop" Json.Document.text?,
    ← fields.required "direct" Named.decode?,
    ← fields.required "type" Named.decode?,
    ← fields.required "value" Json.Document.value?⟩

instance : JsonForm Parameter := ⟨toJson, decode?⟩

end Parameter

end Orchestration
