import Orchestration.Session.Ownership

namespace Orchestration.Session

/-! Dependencies between tasks. Both tasks remember a link, whatever workflows
they are in; it becomes a relation if they share a live one. -/

def remember (session : Session) (pre post : TaskId) : Session :=
  let preCode := (session.task pre).code
  let postCode := (session.task post).code
  (session.updateTask pre fun task =>
      { task with successors := SortedSet.add task.successors postCode }
    ).updateTask post fun task =>
      { task with predecessors := SortedSet.add task.predecessors preCode }

def relationBetween (session : Session) (pre post : TaskId) : Relation where
  pre := (session.task pre).code
  post := (session.task post).code
  name := Task.relationName (session.task pre) (session.task post)

/-- Records a link in the workflow of `receiver`, one of its two tasks. -/
def link (session : Session) (receiver pre post : TaskId) : Session :=
  let session := session.remember pre post
  match session.owner receiver with
  | none => session
  | some id =>
      if session.owner pre = some id ∧ session.owner post = some id then
        session.updateWorkflow id fun workflow =>
          { workflow with
            relations :=
              RelationSet.add workflow.relations
                (session.relationBetween pre post) }
      else session

def precedes (session : Session) (task : TaskId) (targets : List TaskId) :
    Session :=
  targets.foldl (fun session target => session.link task task target) session

def follows (session : Session) (task : TaskId) (targets : List TaskId) :
    Session :=
  targets.foldl (fun session target => session.link task target task) session

/-- Tasks that a task was linked with, as far as its workflow has them. -/
def found (session : Session) (task : TaskId) (codes : SortedSet Int) :
    List TaskId :=
  match session.owner task with
  | some id =>
      codes.toList.filterMap ((session.workflow id).tasks.find? ·)
  | none => []

def predecessors (session : Session) (task : TaskId) : List TaskId :=
  session.found task (session.task task).predecessors

def successors (session : Session) (task : TaskId) : List TaskId :=
  session.found task (session.task task).successors

inductive Arrow where
  | right
  | left
deriving DecidableEq

inductive Operand where
  | one (task : TaskId)
  | many (tasks : List TaskId)
deriving DecidableEq

namespace Operand

def tasks : Operand → List TaskId
  | one task => [task]
  | many tasks => tasks

end Operand

def arrow (session : Session) (direction : Arrow) : Operand → Operand → Session
  | .one task, targets =>
      match direction with
      | .right => session.precedes task targets.tasks
      | .left => session.follows task targets.tasks
  | .many tasks, .one target =>
      match direction with
      | .right => session.follows target tasks
      | .left => session.precedes target tasks
  | .many _, .many _ => session

end Orchestration.Session
