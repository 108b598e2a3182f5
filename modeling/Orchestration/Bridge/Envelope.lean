import Orchestration.Gateway.Record
import Orchestration.Gateway.Error
import Orchestration.Text.Basic

namespace Orchestration

open Json (Document)

structure Envelope where
  status : String
  message : Option String := none
  /-- `null`, if there is nothing but the acknowledgement. -/
  data : Json := .null
deriving DecidableEq

namespace Envelope

def success : String := "SUCCESS"

def isSuccess (envelope : Envelope) : Bool :=
  Text.sameLetters envelope.status success

def toJson (envelope : Envelope) : Json :=
  .object [("status", .string envelope.status),
    ("msg", .ofOption .string envelope.message), ("data", envelope.data)]

def decode? (document : Document) : Option Envelope := do
  let fields ← document.fields? ["status", "msg", "data"]
  return {
    status := ← fields.required "status" Document.text?
    message := ←
      fields.withDefault "msg" (Document.nullable? Document.text?) none
    data := ← fields.withDefault "data" Document.value? .null }

instance : JsonForm Envelope := ⟨toJson, decode?⟩

def failure (envelope : Envelope) : String :=
  envelope.message.getD ("gateway returned status " ++ envelope.status)

def result [JsonForm α] (envelope : Envelope) (method : String) :
    Except Gateway.Error α :=
  if envelope.isSuccess then
    match JsonForm.ofJson? envelope.data with
    | some value => .ok value
    | none => .error (Gateway.Error.undecodable.withContext method)
  else .error (.remoteCall method envelope.failure)

end Envelope

end Orchestration
