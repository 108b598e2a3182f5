import Orchestration.Gateway.Error
import Orchestration.Json.Record
import Orchestration.Url.Basic

namespace Orchestration

open Json (Document)

def releaseVersion : String := "0.1.0"

structure BridgeConfig where
  endpoint : Url
  timeoutSeconds : Nat
  userAgent : Option String := none
deriving DecidableEq

namespace BridgeConfig

def defaultTimeout : Nat := 30

/-- The bridge on this host. -/
def defaultEndpoint : Url where
  scheme := "http".toList
  authority := some {
    host := some (.ipv4 (127 * 256 ^ (3 : Nat) + 1))
    portNumber := some 25333 }
  path := .segments [[]]

def standard : BridgeConfig :=
  { endpoint := defaultEndpoint, timeoutSeconds := defaultTimeout }

instance : Inhabited BridgeConfig := ⟨standard⟩

def url? (document : Document) : Option Url :=
  (document.text?).bind fun text => (Url.read text).toOption

def toJson (config : BridgeConfig) : Json :=
  .object [("endpoint", .string config.endpoint.text),
    ("timeout_secs", .ofNat config.timeoutSeconds),
    ("user_agent", .ofOption .string config.userAgent)]

def decode? (document : Document) : Option BridgeConfig := do
  let fields ← document.fields? ["endpoint", "timeout_secs", "user_agent"]
  return {
    endpoint := ← fields.withDefault "endpoint" url? defaultEndpoint
    timeoutSeconds := ←
      fields.withDefault "timeout_secs" Document.unsigned? defaultTimeout
    userAgent := ←
      fields.withDefault "user_agent" (Document.nullable? Document.text?) none }

instance : JsonForm BridgeConfig := ⟨toJson, decode?⟩

/-- Zero stands for the default. -/
def effectiveTimeout (config : BridgeConfig) : Nat :=
  if config.timeoutSeconds = 0 then defaultTimeout else config.timeoutSeconds

def effectiveUserAgent (config : BridgeConfig) : String :=
  config.userAgent.getD ("dsflow/" ++ releaseVersion)

/-- The text of the endpoint without slashes at its end. -/
def base (config : BridgeConfig) : List Char :=
  (config.endpoint.chars.reverse.dropWhile (· = '/')).reverse

/-- Where a method is called: its name behind the endpoint. -/
def methodUrl (config : BridgeConfig) (method : String) :
    Except Gateway.Error Url :=
  (Url.read (String.ofList (config.base ++ '/' :: method.toList))).mapError
    fun fault =>
      .configuration
        ("Invalid method URL for '" ++ method ++ "': " ++ fault.message)

end BridgeConfig

structure BridgeDraft where
  endpoint : Option String := none
  timeoutSeconds : Option Nat := none
  userAgent : Option String := none

namespace BridgeDraft

def readEndpoint (text : String) : Except Gateway.Error Url :=
  (Url.read text).mapError fun fault =>
    .configuration ("Invalid endpoint '" ++ text ++ "': " ++ fault.message)

/-- Bridges speak HTTP. -/
def checkScheme (url : Url) : Except Gateway.Error Url :=
  let scheme := String.ofList url.scheme
  if scheme = "http" ∨ scheme = "https" then .ok url
  else
    .error (.configuration
      ("Endpoint scheme must be http or https, got '" ++ scheme ++ "'"))

def endpointUrl (draft : BridgeDraft) : Except Gateway.Error Url :=
  match draft.endpoint with
  | some text => do checkScheme (← readEndpoint text)
  | none => .ok BridgeConfig.defaultEndpoint

def build (draft : BridgeDraft) : Except Gateway.Error BridgeConfig := do
  let endpoint ← draft.endpointUrl
  if draft.timeoutSeconds = some 0 then
    throw (.configuration "Timeout must be greater than 0")
  return {
    endpoint := endpoint
    timeoutSeconds := draft.timeoutSeconds.getD BridgeConfig.defaultTimeout
    userAgent := draft.userAgent }

end BridgeDraft

end Orchestration
