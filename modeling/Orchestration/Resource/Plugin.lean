import Orchestration.Error
import Orchestration.Resource.Folder

namespace Orchestration

/-- A reader of files, which tells the content of the one at a path. -/
structure Plugin where
  read : String → Except Error String

namespace Plugin

def memory (files : List (String × String)) : Plugin where
  read path :=
    match files.lookup path with
    | some content => .ok content
    | none => .error (.plugin (.notInMemory path))

def folderFault (path : String) : ReadFault → PluginFault
  | .missing => .notFound path
  | .denied => .denied path
  | .isFolder => .unreadable path "Is a directory (os error 21)"
  | .notFolder => .unreadable path "Not a directory (os error 20)"
  | .nameTooLong => .unreadable path "File name too long (os error 36)"
  | .zeroCharacter =>
      .unreadable path "file name contained an unexpected NUL byte"
  | .notText => .unreadable path "stream did not contain valid UTF-8"

/-- Reads below a base in a folder. -/
def folder (tree : Folder) (base : String) : Plugin where
  read path :=
    let path := joinPaths (joinPaths tree.root base) path
    (tree.read path).mapError fun fault => .plugin (folderFault path fault)

end Plugin

/-- An outcome for which files are read, one after the other; what comes next
depends on their content. -/
inductive Reading (α : Type) where
  | done (outcome : Except Error α)
  | read (plugin : Plugin) (path : String) (next : String → Reading α)

namespace Reading

variable {α β : Type}

def bind : Reading α → (α → Reading β) → Reading β
  | done (.ok value), next => next value
  | done (.error error), _ => done (.error error)
  | read plugin path more, next =>
      read plugin path fun content => (more content).bind next

instance : Monad Reading where
  pure value := done (.ok value)
  bind := bind

def run : Reading α → Except Error α
  | done outcome => outcome
  | read plugin path next => do
      let content ← plugin.read path
      (next content).run

/-- What is read until all is done, or until a file cannot be read. -/
def reads : Reading α → List (Plugin × String)
  | done _ => []
  | read plugin path next =>
      (plugin, path) ::
        match plugin.read path with
        | .ok content => (next content).reads
        | .error _ => []

theorem read_bind (plugin : Plugin) (path : String)
    (more : String → Reading α) (next : α → Reading β) :
    (read plugin path more >>= next) =
      read plugin path fun content => more content >>= next := rfl

@[simp] theorem run_bind (reading : Reading α) (next : α → Reading β) :
    (reading >>= next).run = reading.run >>= fun value => (next value).run := by
  induction reading with
  | done outcome => cases outcome <;> rfl
  | read plugin path more induction =>
      rw [read_bind, run, run]
      cases plugin.read path with
      | error error => rfl
      | ok content => exact induction content

end Reading

end Orchestration
