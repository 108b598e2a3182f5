import Orchestration.Gateway.Server

namespace Orchestration

open Gateway (Exchange)
open Json (Document)

structure Resource where
  name : String
  content : Option String := none
  description : Option String := none
deriving DecidableEq

namespace Resource

def toJson (resource : Resource) : Json :=
  .object [("name", .string resource.name),
    ("content", .ofOption .string resource.content),
    ("description", .ofOption .string resource.description)]

def decode? (document : Document) : Option Resource := do
  let fields ← document.fields? ["name", "content", "description"]
  let text (name : String) : Option (Option String) :=
    fields.withDefault name (Document.nullable? Document.text?) none
  return {
    name := ← fields.required "name" Document.text?
    content := ← text "content"
    description := ← text "description" }

/-- An upload needs content and a user. -/
def upload (resource : Resource) (user : String) :
    Except Error (Gateway.Request Unit) :=
  match resource.content with
  | none => .error (.parameter (.contentRequired resource.name))
  | some content =>
      if content.isEmpty then
        .error (.parameter (.contentRequired resource.name))
      else if user.isEmpty then
        .error (.parameter (.userRequiredToSave resource.name))
      else .ok (.saveResource user resource.name content)

def save (resource : Resource) (user : String) : Exchange Unit := do
  let request ← Exchange.ofExcept (resource.upload user)
  Exchange.ask request

instance : JsonForm Resource := ⟨toJson, decode?⟩

end Resource

/-- A name that a gateway resolves, or the full name itself. -/
inductive ResourceReference where
  | named (name : String)
  | resolved (fullName : String)
deriving DecidableEq

structure ResourceRecord where
  fullName : String
deriving DecidableEq

namespace ResourceRecord

def toJson (record : ResourceRecord) : Json :=
  .object [("resourceName", .string record.fullName)]

def decode? (document : Document) : Option ResourceRecord := do
  let fields ← document.fields? ["resourceName"]
  return { fullName := ← fields.required "resourceName" Document.text? }

instance : JsonForm ResourceRecord := ⟨toJson, decode?⟩

end ResourceRecord

namespace ResourceReference

def toJson : ResourceReference → Json
  | named name => .string name
  | resolved fullName => .object [("resourceName", .string fullName)]

/-- The form tells the two apart, so all of the document is looked at. -/
def decode? (document : Document) : Option ResourceReference :=
  match document, document.toJson? with
  | .string (some name), some _ => some (.named name)
  | .object fields, some _ =>
      (ResourceRecord.decode? (.object fields)).map fun record =>
        .resolved record.fullName
  | _, _ => none

/-- Names are looked up for a user, who has to be given. -/
def resolve (user : Option String) : ResourceReference → Exchange String
  | named name =>
      match user.filter (!·.isEmpty) with
      | some user => do
          let info ← Exchange.ask (.resourceFile user name)
          return info.fullName
      | none =>
          Exchange.ofExcept (.error (.parameter (.userRequiredToResolve name)))
  | resolved fullName => return fullName

def resolveInto (user : Option String) (names : SortedSet String) :
    List ResourceReference → Exchange (SortedSet String)
  | [] => return names
  | reference :: rest => do
      let name ← reference.resolve user
      resolveInto user (SortedSet.add names name) rest

/-- Records of references in ascending order, each full name once. -/
def resolveAll (user : Option String) (references : List ResourceReference) :
    Exchange (List ResourceRecord) := do
  let names ← resolveInto user .empty references
  return names.toList.map ResourceRecord.mk

instance : JsonForm ResourceReference := ⟨toJson, decode?⟩

end ResourceReference

end Orchestration
