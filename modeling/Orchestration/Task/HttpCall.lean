import Orchestration.Parameter.Map
import Orchestration.Task.Check

namespace Orchestration

/-- Milliseconds until a connection or a response is given up. -/
def defaultHttpTimeout : Nat := 60000

structure HttpCall where
  url : String
  verb : HttpVerb := .get
  parameters : ParameterMap := .empty
  check : HttpCheck := .statusCodeDefault
  condition : Option String := none
  connectTimeout : Nat := defaultHttpTimeout
  socketTimeout : Nat := defaultHttpTimeout
deriving DecidableEq

namespace HttpCall

/-- Every check but the default one compares with a condition. -/
def validate (call : HttpCall) : Except Error Unit :=
  if call.check ≠ .statusCodeDefault ∧ (call.condition.getD "").isEmpty then
    .error (.parameter (.conditionRequired call.check))
  else .ok ()

def taskParameters (call : HttpCall) : Except Error (List (String × Json)) := do
  let parameters ← call.parameters.toParameters .input
  return [("url", .string call.url),
    ("httpMethod", .string call.verb.name),
    ("httpParams", (Json.array (parameters.map Parameter.toJson)).sorted),
    ("httpCheckCondition", .string call.check.name),
    ("condition", .ofOption .string call.condition),
    ("connectTimeout", .ofNat call.connectTimeout),
    ("socketTimeout", .ofNat call.socketTimeout)]

end HttpCall

end Orchestration
