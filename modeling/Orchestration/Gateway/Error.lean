import Orchestration.Named

namespace Orchestration.Gateway

inductive ErrorKind where
  | invalidInput
  | notFound
  | remoteCall
  | networkError
  | timeout
  | serialization
  | configuration
  | unknown
deriving DecidableEq

namespace ErrorKind

def name : ErrorKind → String
  | invalidInput => "invalid_input"
  | notFound => "not_found"
  | remoteCall => "remote_call"
  | networkError => "network_error"
  | timeout => "timeout"
  | serialization => "serialization"
  | configuration => "configuration"
  | unknown => "unknown"

instance : Named ErrorKind where
  all := [invalidInput, notFound, remoteCall, networkError, timeout,
    serialization, configuration, unknown]
  name := name
  complete value := by cases value <;> decide
  distinct := by decide

instance : Inhabited ErrorKind := ⟨unknown⟩

def retryable : ErrorKind → Bool
  | networkError => true
  | timeout => true
  | _ => false

end ErrorKind

inductive ErrorSource where
  | text (value : String)
  | undecodable
  | transport
deriving DecidableEq

structure Error where
  kind : ErrorKind
  message : Option String := none
  source : Option ErrorSource := none
  context : Option String := none
deriving DecidableEq

namespace Error

def notFound (message : String) : Error :=
  { kind := .notFound, message := some message }

def invalidInput (message : String) : Error :=
  { kind := .invalidInput, message := some message }

def configuration (message : String) : Error :=
  { kind := .configuration, message := some message }

def remoteCall (method message : String) : Error :=
  { kind := .remoteCall, message := some message, context := some method }

def undecodable : Error :=
  { kind := .serialization, message := some "Invalid gateway payload",
    source := some .undecodable }

def withMessage (error : Error) (message : String) : Error :=
  { error with message := some message }

def withSource (error : Error) (source : ErrorSource) : Error :=
  { error with source := some source }

def withContext (error : Error) (method : String) : Error :=
  { error with context := some method }

def retryable (error : Error) : Bool := error.kind.retryable

def text (error : Error) : String :=
  "[" ++ error.kind.name ++ "]" ++
    match error.message with
    | some message => ": " ++ message
    | none => ""

end Error

end Orchestration.Gateway
