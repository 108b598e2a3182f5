import Orchestration.Proofs.Session.Perform

namespace Orchestration

open Orchestration.Action (Respects)

/-! What operations leave as it was. A relation between a session and a later
one holds across operations if it holds across the few changes that operations
are made of. -/

namespace Operation

def isSetting : Operation → Bool
  | openWorkflow _ | hold _ | release _ | setParameter _ _ _
  | addInput _ _ _ | addOutput _ _ _ => true
  | _ => false

def isScoping : Operation → Bool
  | enter _ | leave => true
  | _ => false

end Operation

namespace Session

/-- Earlier sessions are related to later ones whatever happens to them, as long
as nobody sets a value in a task or in a workflow. -/
structure Frame (related : Session → Session → Prop) : Prop where
  same {before after : Session} (workflows : after.workflows = before.workflows)
    (tasks : after.tasks = before.tasks) : related before after
  trans {before middle after : Session} :
    related before middle → related middle after → related before after
  rooted (session : Session) (id : WorkflowId) :
    related session (session.synthesizeRoots id)
  coded (session : Session) (id : WorkflowId) (code : Int) :
    related session (session.updateWorkflow id fun workflow =>
      { workflow with code := some code })
  link (session : Session) (pre post : TaskId) :
    related session (session.link pre pre post)
  newTask (session : Session) (task : Task) :
    related session (session.newTask task).2
  addTask (session : Session) (id : WorkflowId) (task : TaskId) :
    related session (session.addTask id task).2

/-- A frame inside of a scope: nobody begins or ends one either. -/
structure InnerFrame (related : Session → Session → Prop) : Prop where
  same {before after : Session} (objects : SameObjects before after) :
    related before after
  trans {before middle after : Session} :
    related before middle → related middle after → related before after
  rooted (session : Session) (id : WorkflowId) :
    related session (session.synthesizeRoots id)
  coded (session : Session) (id : WorkflowId) (code : Int) :
    related session (session.updateWorkflow id fun workflow =>
      { workflow with code := some code })
  link (session : Session) (pre post : TaskId) :
    related session (session.link pre pre post)
  newTask (session : Session) (task : Task) :
    related session (session.newTask task).2
  addTask (session : Session) (id : WorkflowId) (task : TaskId) :
    related session (session.addTask id task).2

namespace InnerFrame

variable {related : Session → Session → Prop} (frame : InnerFrame related)
include frame

theorem refl (session : Session) : related session session :=
  frame.same ⟨rfl, rfl, rfl⟩

theorem run {action : Action α} (respects : Respects related action)
    (session : Session) : related session (action.run session).2 :=
  respects.run frame.refl frame.trans session

theorem served {before after : Session} (served : Served before after) :
    related before after :=
  frame.same (sameObjects_of_served (.single served))

theorem looked {before after : Session} (looked : Looked before after) :
    related before after := by
  cases looked with
  | queried queried => exact frame.served queried.served
  | rooted id => exact frame.rooted before id

theorem looks {action : Action α} (respects : Respects Looked action)
    (session : Session) : related session (action.run session).2 :=
  frame.run (respects.mono fun _ _ => frame.looked) session

theorem linkAll (session : Session) (pairs : List (TaskId × TaskId)) :
    related session (session.linkAll pairs) := by
  induction pairs generalizing session with
  | nil => exact frame.refl session
  | cons pair rest induction =>
      exact frame.trans (frame.link session pair.1 pair.2) (induction _)

theorem enlisted (session : Session) (id : WorkflowId) (task : Task) :
    related session (session.enlisted id task) :=
  frame.trans (frame.newTask session task) (frame.addTask _ id _)

theorem register (session : Session) (id : WorkflowId) (task : Task) :
    related session (session.register id task).2 := by
  cases taken : (session.workflow id).tasks.contains task.code with
  | true =>
      rw [register_of_taken taken]
      exact frame.refl session
  | false =>
      rw [register_of_free taken, linkBranches_eq]
      exact frame.trans (frame.enlisted session id task) (frame.linkAll _ _)

theorem build (draft : TaskDraft) (session : Session) :
    related session (draft.build.run session).2 := by
  have planned :=
    frame.run (draft.plan_respects.mono fun _ _ => frame.served) session
  rw [TaskDraft.build_eq, Action.run_bind]
  generalize draft.plan.run session = reached at planned ⊢
  obtain ⟨error | plan, middle⟩ := reached
  · exact planned
  · exact frame.trans planned (frame.register middle plan.1 plan.2)

theorem submit (session : Session) (id : WorkflowId) :
    related session ((submit id).run session).2 :=
  frame.run (submit_respects (fun _ _ => frame.served)
    (fun _ _ => frame.looked) frame.coded id) session

theorem start (session : Session) (id : WorkflowId) :
    related session ((start id).run session).2 :=
  frame.run ((start_respects id).mono fun _ _ => frame.served) session

theorem submitAndStart (session : Session) (id : WorkflowId) :
    related session ((submitAndStart id).run session).2 :=
  frame.run (submitAndStart_respects (fun _ _ => frame.served)
    (fun _ _ => frame.looked) frame.coded id) session

/-- Whatever an operation does, it does it by changes that a frame allows for,
unless it sets values or is about scopes. -/
theorem perform (session : Session) {operation : Operation}
    (unset : operation.isSetting = false)
    (plain : operation.isScoping = false) :
    related session (operation.perform session) := by
  cases operation with
  | openWorkflow | hold | release | setParameter | addInput | addOutput =>
      cases unset
  | enter | leave => cases plain
  | openGateway | serve | clock => exact frame.same ⟨rfl, rfl, rfl⟩
  | synthesizeRoots id => exact frame.rooted session id
  | build draft => exact frame.build draft session
  | addTask id task => exact frame.addTask session id task
  | precedes task targets =>
      rw [Operation.perform, precedes_eq]
      exact frame.linkAll session _
  | follows task targets =>
      rw [Operation.perform, follows_eq]
      exact frame.linkAll session _
  | arrow direction left right =>
      rw [Operation.perform, arrow_eq]
      exact frame.linkAll session _
  | definitionList id => exact frame.looks (definitionList_looked id) session
  | relationList id => exact frame.looks (relationList_looked id) session
  | definition id => exact frame.looks (definition_looked id) session
  | summary id => exact frame.looks (summary_looked id) session
  | submit id => exact frame.submit session id
  | start id => exact frame.start session id
  | submitAndStart id => exact frame.submitAndStart session id

end InnerFrame

namespace Frame

variable {related : Session → Session → Prop}

theorem inner (frame : Frame related) : InnerFrame related where
  same objects := frame.same objects.workflows objects.tasks
  trans := frame.trans
  rooted := frame.rooted
  coded := frame.coded
  link := frame.link
  newTask := frame.newTask
  addTask := frame.addTask

theorem perform (frame : Frame related) (session : Session)
    {operation : Operation} (unset : operation.isSetting = false) :
    related session (operation.perform session) := by
  cases scoping : operation.isScoping with
  | false => exact frame.inner.perform session unset scoping
  | true =>
      cases operation with
      | enter | leave => exact frame.same rfl rfl
      | _ => cases scoping

end Frame

end Session

end Orchestration
