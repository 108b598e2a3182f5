import Orchestration.Named

namespace Orchestration

inductive HttpVerb where
  | get
  | post
  | head
  | put
  | delete
deriving DecidableEq

namespace HttpVerb

def name : HttpVerb → String
  | get => "GET"
  | post => "POST"
  | head => "HEAD"
  | put => "PUT"
  | delete => "DELETE"

instance : Named HttpVerb where
  all := [get, post, head, put, delete]
  name := name
  complete value := by cases value <;> decide
  distinct := by decide

instance : Inhabited HttpVerb := ⟨get⟩

end HttpVerb

inductive HttpCheck where
  | statusCodeDefault
  | statusCodeCustom
  | bodyContains
  | bodyNotContains
deriving DecidableEq

namespace HttpCheck

def name : HttpCheck → String
  | statusCodeDefault => "STATUS_CODE_DEFAULT"
  | statusCodeCustom => "STATUS_CODE_CUSTOM"
  | bodyContains => "BODY_CONTAINS"
  | bodyNotContains => "BODY_NOT_CONTAINS"

instance : Named HttpCheck where
  all := [statusCodeDefault, statusCodeCustom, bodyContains, bodyNotContains]
  name := name
  complete value := by cases value <;> decide
  distinct := by decide

instance : Inhabited HttpCheck := ⟨statusCodeDefault⟩

end HttpCheck

end Orchestration
