import Orchestration.Resource.Plugin
import Orchestration.Task.HttpCall
import Orchestration.Task.Statement
import Orchestration.Task.Switch
import Orchestration.Text.Basic

namespace Orchestration

open Text

inductive StandardField where
  | localParams
  | resourceList
  | dependence
  | waitStartTimeout
  | conditionResult
deriving DecidableEq

namespace StandardField

def name : StandardField → String
  | localParams => "localParams"
  | resourceList => "resourceList"
  | dependence => "dependence"
  | waitStartTimeout => "waitStartTimeout"
  | conditionResult => "conditionResult"

instance : Named StandardField where
  all := [localParams, resourceList, dependence, waitStartTimeout,
    conditionResult]
  name := name
  complete value := by cases value <;> decide
  distinct := by decide

end StandardField

inductive TaskKind where
  | shell (body : String)
  | python (body : String)
  | http (call : HttpCall)
  | sql (statement : Statement)
  | subWorkflow (workflow : String)
  | switch (switch : Switch)
  | custom (type : String) (parameters : SortedMap String Json)
deriving DecidableEq

namespace TaskKind

instance : Inhabited TaskKind := ⟨.shell ""⟩

def switchType : String := "SWITCH"

def type : TaskKind → String
  | shell _ => "SHELL"
  | python _ => "PYTHON"
  | http _ => "HTTP"
  | sql _ => "SQL"
  | subWorkflow _ => "SUB_PROCESS"
  | switch _ => switchType
  | custom type _ => type

def ignoredFields : TaskKind → List StandardField
  | switch _ => [.conditionResult, .dependence]
  | _ => []

def standardFields (kind : TaskKind) : List StandardField :=
  (Named.all : List StandardField).filter fun field =>
    !kind.ignoredFields.contains field

def hasWorkerLimits : TaskKind → Bool
  | shell _ => true
  | python _ => true
  | custom _ _ => true
  | _ => false

def fileSuffixes : TaskKind → List String
  | shell _ => [".sh", ".zsh"]
  | python _ => [".py"]
  | sql _ => [".sql"]
  | _ => []

def validate : TaskKind → Except Error Unit
  | http call => call.validate
  | _ => .ok ()

def body? : TaskKind → Option String
  | shell body => some body
  | python body => some body
  | sql statement => some statement.text
  | _ => none

def withBody (body : String) : TaskKind → TaskKind
  | shell _ => shell body
  | python _ => python body
  | sql statement => sql { statement with text := body }
  | kind => kind

/-- A word is not empty and has no blanks. -/
def isWord (text : List Char) : Bool := !text.isEmpty && !text.any isBlank

def suffix? (text : List Char) : Option (List Char) :=
  let after := text.reverse.takeWhile (· ≠ '.')
  if after.length < text.length then
    some (text.drop (text.length - after.length - 1))
  else none

inductive BodyPlan where
  | keep
  | read (path : String)
  | refuse (suffix : String)
deriving DecidableEq

/-- A word with a suffix of the kind is a file. If there is a plugin, words with
other suffixes are refused. -/
def bodyPlan (kind : TaskKind) (plugged : Bool) : BodyPlan :=
  match kind.body? with
  | none => .keep
  | some body =>
      let text := body.toList
      if isWord text then
        if kind.fileSuffixes.any fun suffix => suffix.toList.isSuffixOf text then
          .read body
        else
          match suffix? text with
          | some suffix =>
              if plugged then .refuse (String.ofList suffix) else .keep
          | none => .keep
      else .keep

def resolveBody (kind : TaskKind) (plugin : Option Plugin) :
    Reading TaskKind :=
  match kind.bodyPlan plugin.isSome with
  | .keep => .done (.ok kind)
  | .read path =>
      match plugin with
      | some plugin =>
          .read plugin path fun body => .done (.ok (kind.withBody body))
      | none => .done (.error (.plugin (.noPlugin path)))
  | .refuse suffix =>
      .done (.error (.parameter (.unsupportedSuffix suffix kind.fileSuffixes)))

end TaskKind

end Orchestration
