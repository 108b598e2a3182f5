import Orchestration.Bridge.Config
import Orchestration.Bridge.Envelope
import Orchestration.Bridge.Status
import Orchestration.Gateway.Request
import Orchestration.Gateway.Requirement
import Orchestration.Task.Check

namespace Orchestration

open Gateway (Request)

structure BridgeMessage where
  verb : HttpVerb
  url : Url
  contentType : String
  userAgent : String
  body : Json
deriving DecidableEq

namespace BridgeMessage

/-- The part of the address that is sent to the host. -/
def target (message : BridgeMessage) : String :=
  String.ofList
    (message.url.path.text ++ Url.marked? '?' message.url.query)

def toJson (message : BridgeMessage) : Json :=
  .object [("verb", Named.toJson message.verb),
    ("path", .string message.target),
    ("content_type", .string message.contentType),
    ("user_agent", .string message.userAgent), ("body", message.body)]

end BridgeMessage

inductive BridgeReply where
  | response (status : HttpStatus) (body : ByteArray)
  | dropped

namespace BridgeReply

def final? : BridgeReply → Option (HttpStatus × ByteArray)
  | response status body =>
      if status.isPreliminary then none
      else some (status, if status.isBodiless then .empty else body)
  | dropped => none

/-- A connection that breaks; trying again may help. -/
def lost (method : String) : Gateway.Error :=
  { kind := .networkError, message := some "error sending request",
    source := some .transport, context := some method }

def unreadable (method : String) : Gateway.Error :=
  { kind := .serialization, message := some "error decoding response body",
    source := some .transport, context := some method }

def result [JsonForm α] (reply : BridgeReply) (method : String) :
    Except Gateway.Error α :=
  match reply.final? with
  | none => .error (lost method)
  | some (status, body) =>
      if status.isSuccess then
        match (JsonForm.readBytes? body : Option Envelope) with
        | some envelope => envelope.result method
        | none => .error (unreadable method)
      else
        .error (.remoteCall method
          ("gateway answered with HTTP " ++ status.text))

end BridgeReply

structure BridgeClient where
  config : BridgeConfig
deriving DecidableEq

namespace BridgeClient

/-- A character that may stand in a header: controls may not, but the
tabulator. -/
def isHeaderChar (c : Char) : Bool :=
  c = '\t' || (0x20 ≤ c.toNat && c.toNat ≠ 0x7f)

/-- Blanks around the value of a header are no part of it. -/
def headerValue (text : String) : String :=
  let isEdge (c : Char) : Bool := c = ' ' || c = '\t'
  let inner := (text.toList.dropWhile isEdge).reverse.dropWhile isEdge
  String.ofList inner.reverse

def ofConfig (config : BridgeConfig) : Except Gateway.Error BridgeClient :=
  if config.effectiveUserAgent.toList.all isHeaderChar then .ok ⟨config⟩
  else
    .error ((Gateway.Error.configuration "Failed to create HTTP client")
      |>.withSource .transport)

/-- Every request is posted to the address of its method. -/
def message (client : BridgeClient) (request : Request α) :
    Except Gateway.Error BridgeMessage := do
  let url ← client.config.methodUrl request.method.wireName
  return {
    verb := .post
    url := url
    contentType := "application/json"
    userAgent := headerValue client.config.effectiveUserAgent
    body := request.arguments }

def call (client : BridgeClient) (reply : BridgeMessage → BridgeReply)
    (request : Request α) : Except Gateway.Error α := do
  let message ← client.message request
  let _ := request.form
  (reply message).result request.method.wireName

def checkVersion (client : BridgeClient) (reply : BridgeMessage → BridgeReply) :
    Bool :=
  match client.call reply .version with
  | .ok version => Gateway.supports version
  | .error _ => false

end BridgeClient

end Orchestration
