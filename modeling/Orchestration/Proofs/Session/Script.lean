import Orchestration.Proofs.Session.Keeping
import Orchestration.Proofs.Text.Split

namespace Orchestration

open Text

/-! Bodies of tasks that are names of files: when a build reads a file, which
one, and what becomes of the body. -/

namespace Reading

end Reading

namespace TaskKind

/-- The kinds with a body, and the suffixes of files that may hold it. -/
inductive Script : TaskKind → String → List String → Prop
  | shell (body : String) : Script (.shell body) body [".sh", ".zsh"]
  | python (body : String) : Script (.python body) body [".py"]
  | sql (statement : Statement) : Script (.sql statement) statement.text [".sql"]

structure Word (body : String) : Prop where
  nonempty : body ≠ ""
  solid : ∀ c ∈ body.toList, isBlank c = false

structure NamesFile (suffixes : List String) (body : String) : Prop where
  word : Word body
  ending : ∃ suffix ∈ suffixes, suffix.toList <:+ body.toList

/-- A word that ends with none of the suffixes, although it has a point: what
stands behind the last one is another suffix. -/
structure Strays (suffixes : List String) (body suffix : String) : Prop where
  word : Word body
  ending : ∀ suffix ∈ suffixes, ¬ suffix.toList <:+ body.toList
  last : ∃ before after, body.toList = before ++ '.' :: after ∧
    '.' ∉ after ∧ suffix = String.ofList ('.' :: after)

variable {kind resolved : TaskKind} {plugin : Option Plugin} {body : String}
  {suffixes : List String}

theorem Script.body? (script : Script kind body suffixes) :
    kind.body? = some body := by
  cases script <;> rfl

theorem Script.fileSuffixes (script : Script kind body suffixes) :
    kind.fileSuffixes = suffixes := by
  cases script <;> rfl

theorem Script.validate (script : Script kind body suffixes) :
    kind.validate = .ok () := by
  cases script <;> rfl

theorem Script.unique {text : String} {endings : List String}
    (script : Script kind body suffixes) (other : Script kind text endings) :
    text = body ∧ endings = suffixes :=
  ⟨Option.some.inj (other.body?.symm.trans script.body?),
    other.fileSuffixes.symm.trans script.fileSuffixes⟩

/-- The body of the kind neither names a file nor, if there is a plugin, has a
suffix of its own. -/
def Keeps (kind : TaskKind) (plugged : Bool) : Prop :=
  ∀ body suffixes, Script kind body suffixes →
    ¬ NamesFile suffixes body ∧
      (plugged = true → ∀ suffix, ¬ Strays suffixes body suffix)

/-- What is read for a kind, and which kind comes out. -/
structure Resolves (kind : TaskKind) (plugin : Option Plugin)
    (reads : List (Plugin × String)) (outcome : Except Error TaskKind) :
    Prop where
  reads_iff : ∀ given path, reads = [(given, path)] ↔
    plugin = some given ∧
      ∃ suffixes, Script kind path suffixes ∧ NamesFile suffixes path
  atMostOne : reads = [] ∨ ∃ given path, reads = [(given, path)]
  content : ∀ given body suffixes, Script kind body suffixes →
    NamesFile suffixes body → plugin = some given →
      outcome = (given.read body).map fun content => kind.withBody content
  noPlugin : ∀ body suffixes, Script kind body suffixes →
    NamesFile suffixes body → plugin = none →
      outcome = .error (.plugin (.noPlugin body))
  otherSuffix : ∀ body suffixes suffix, Script kind body suffixes →
    Strays suffixes body suffix → plugin.isSome = true →
      outcome = .error (.parameter (.unsupportedSuffix suffix suffixes))
  kept : kind.Keeps plugin.isSome →
    outcome = kind.validate.map fun _ => kind

end TaskKind

namespace Session

variable {session after : Session} {id : WorkflowId} {made : Task}
  {task : TaskId}

end Session

namespace TaskDraft

variable {draft : TaskDraft} {session after : Session} {id : WorkflowId}
  {task : TaskId}

end TaskDraft

end Orchestration
