import Orchestration.Session.State

namespace Orchestration.Session

/-- Puts a task into a workflow, unless the workflow has one with its code. A
live workflow that had the task loses it. -/
def addTask (session : Session) (id : WorkflowId) (taskId : TaskId) :
    Bool × Session :=
  let code := (session.task taskId).code
  if (session.workflow id).tasks.contains code then (false, session)
  else
    let left :=
      match session.owner taskId with
      | some previous =>
          if previous = id then session
          else session.updateWorkflow previous (·.withoutTask code)
      | none => session
    let entered := left.updateWorkflow id fun workflow =>
      { workflow with tasks := workflow.tasks.insert code taskId }
    (true, entered.updateTask taskId fun task =>
      { task with workflow := some id })

def taskIds (session : Session) (id : WorkflowId) : List TaskId :=
  (session.workflow id).tasks.values

def tasksIn (session : Session) (id : WorkflowId) : List Task :=
  (session.taskIds id).map session.task

def taskByCode (session : Session) (id : WorkflowId) (code : Int) :
    Except Error TaskId :=
  match (session.workflow id).tasks.find? code with
  | some taskId => .ok taskId
  | none => .error (.taskNotFound code)

def tasksByName (session : Session) (id : WorkflowId) (name : String) :
    List TaskId :=
  (session.taskIds id).filter fun taskId => (session.task taskId).name == name

def oneTaskByName (session : Session) (id : WorkflowId) (name : String) :
    Except Error TaskId :=
  match session.tasksByName id name with
  | taskId :: _ => .ok taskId
  | [] => .error (.taskNameNotFound name)

end Orchestration.Session
