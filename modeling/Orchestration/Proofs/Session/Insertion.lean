import Orchestration.Proofs.Parameter.Map
import Orchestration.Proofs.Session.Frame

namespace Orchestration

/-! How parameters come to tasks. A task has those that its draft had and those
that were put in later; whatever else happens to the task leaves them. -/

namespace Task

def contents (task : Task) : Task :=
  { task with
    workflow := none
    predecessors := .empty
    successors := .empty }

def parameterMap (task : Task) : Direction → ParameterMap
  | .input => task.inputs
  | .output => task.outputs

theorem field_of_contents (field : Task → β)
    (kept : ∀ task : Task, field task.contents = field task)
    {task other : Task} (same : task.contents = other.contents) :
    field task = field other := by
  rw [← kept, same, kept]

end Task

namespace Session

variable {session before middle after : Session}

def Retains (before after : Session) : Prop :=
  ∀ id, before.hasTask id →
    after.hasTask id ∧ (after.task id).contents = (before.task id).contents

theorem Retains.of_tasks (same : after.tasks = before.tasks) :
    Retains before after := fun id present => by
  rw [Session.hasTask, Session.task, same]
  exact ⟨present, rfl⟩

theorem frame_retains : Frame Retains where
  same _ tasks := .of_tasks tasks
  trans first second id present :=
    have ⟨there, same⟩ := first id present
    have ⟨still, again⟩ := second id there
    ⟨still, again.trans same⟩
  rooted _ _ := .of_tasks rfl
  coded _ _ _ := .of_tasks rfl
  link session pre post id present :=
    ⟨by rwa [hasTask_link],
      task_link_kept Task.contents (fun _ _ _ => rfl) session pre post id⟩
  newTask session task id present := by
    have old : id ≠ (session.newTask task).1 := by
      rintro rfl
      rw [hasTask_newTask_fst] at present
      cases present
    exact ⟨hasTask_newTask_iff.mpr (.inl present), by
      rw [task_newTask_other old]⟩
  addTask session id task other present :=
    ⟨by rwa [hasTask_addTask],
      task_addTask_kept Task.contents (fun _ _ => rfl) session id task other⟩

end Session

namespace Operation

open Session (Retains)

variable {session : Session} {id : TaskId} {direction : Direction}
  {operation : Operation}

def inserts (id : TaskId) (direction : Direction) :
    Operation → List (String × HostValue)
  | addInput task name value =>
      if task = id ∧ direction = .input then [(name, value)] else []
  | addOutput task name value =>
      if task = id ∧ direction = .output then [(name, value)] else []
  | _ => []

def insertions (id : TaskId) (direction : Direction)
    (operations : List Operation) : List (String × HostValue) :=
  operations.flatMap (inserts id direction)

/-- Only these operations put anything in. -/
def isInsertion : Operation → Bool
  | addInput _ _ _ | addOutput _ _ _ => true
  | _ => false

theorem retains_perform (session : Session)
    (silent : operation.isInsertion = false) :
    Retains session (operation.perform session) := by
  cases set : operation.isSetting with
  | false => exact Session.frame_retains.perform session set
  | true =>
      cases operation with
      | addInput | addOutput => cases silent
      | hold | release | setParameter => exact .of_tasks rfl
      | openWorkflow draft =>
          rw [perform]
          split
          · exact .of_tasks rfl
          · exact .of_tasks rfl
      | _ => cases set

end Operation

namespace Session

variable {before middle after : Session} {id : TaskId}

/-- What a task that was there gets until later. -/
structure Receives (before after : Session) (id : TaskId)
    (inserted : Direction → List (String × HostValue)) : Prop where
  hasTask : after.hasTask id
  map : ∀ direction, (after.task id).parameterMap direction =
    ((before.task id).parameterMap direction).insertAll (inserted direction)
  raw : (after.task id).rawParameters = (before.task id).rawParameters

theorem Retains.receives (retains : Retains before after)
    (present : before.hasTask id) : Receives before after id fun _ => [] := by
  obtain ⟨there, same⟩ := retains id present
  refine ⟨there, fun direction => ?_, ?_⟩
  · rw [ParameterMap.insertAll_nil]
    apply Task.field_of_contents (Task.parameterMap · direction) ?_ same
    intro task
    cases direction <;> rfl
  · exact Task.field_of_contents Task.rawParameters (fun _ => rfl) same

theorem Receives.trans {first second : Direction → List (String × HostValue)}
    (early : Receives before middle id first)
    (late : Receives middle after id second) :
    Receives before after id fun direction =>
      first direction ++ second direction where
  hasTask := late.hasTask
  map direction := by
    rw [late.map, early.map, ParameterMap.insertAll_append]
  raw := late.raw.trans early.raw

theorem receives_updateTask {update : Task → Task} {task : TaskId}
    {inserted : Direction → List (String × HostValue)}
    (present : before.hasTask id)
    (self : task = id → ∀ direction,
      (update (before.task id)).parameterMap direction =
        ((before.task id).parameterMap direction).insertAll
          (inserted direction))
    (other : task ≠ id → ∀ direction, inserted direction = [])
    (raw : ∀ task, (update task).rawParameters = task.rawParameters) :
    Receives before (before.updateTask task update) id inserted := by
  refine ⟨by rwa [hasTask_updateTask], fun direction => ?_,
    task_updateTask_kept Task.rawParameters raw task id⟩
  by_cases same : task = id
  · rw [← self same, same, task_updateTask_self present]
  · rw [task_updateTask_other (Ne.symm same), other same]
    rfl

end Session

namespace Operation

open Session (Receives Retains)

variable {session : Session} {id : TaskId}

theorem receives_perform (present : session.hasTask id)
    (operation : Operation) :
    Receives session (operation.perform session) id fun direction =>
      operation.inserts id direction := by
  cases silent : operation.isInsertion with
  | false =>
      have nothing : ∀ direction, operation.inserts id direction = [] := by
        cases operation <;> first | exact fun _ => rfl | cases silent
      simp only [nothing]
      exact (retains_perform session silent).receives present
  | true =>
      cases operation with
      | addInput task name value | addOutput task name value =>
          refine Session.receives_updateTask present ?_ ?_ fun _ => rfl
          · rintro rfl (_ | _) <;> simp [inserts, Task.parameterMap,
              ParameterMap.insertAll]
          · intro other direction
            simp [inserts, other]
      | _ => cases silent

theorem receives_performAll (present : session.hasTask id)
    (operations : List Operation) :
    Receives session (performAll session operations) id fun direction =>
      insertions id direction operations := by
  induction operations generalizing session with
  | nil => exact (Session.frame_retains.inner.refl session).receives present
  | cons operation rest induction =>
      have first := receives_perform present operation
      exact first.trans (induction first.hasTask)

end Operation

theorem Session.contents_of_register {session after : Session}
    {owner : WorkflowId} {task : Task} {id : TaskId}
    (registered : session.register owner task = (.ok id, after)) :
    after.hasTask id ∧ (after.task id).contents = task.contents := by
  cases taken : (session.workflow owner).tasks.contains task.code with
  | true => cases (register_of_taken taken).symm.trans registered
  | false =>
      rw [register_of_free taken, linkBranches_eq] at registered
      cases registered
      obtain ⟨there, same⟩ := frame_retains.inner.linkAll _ _ _
        (hasTask_enlisted_fst session owner task)
      refine ⟨there, same.trans ?_⟩
      rw [task_enlisted_self taken]
      rfl

namespace TaskDraft

variable {draft : TaskDraft} {session after : Session} {id : TaskId}

theorem contents_of_build (built : draft.build.run session = (.ok id, after)) :
    after.hasTask id ∧ ∃ kind gateway identity,
      (after.task id).contents =
        (draft.task kind gateway identity).contents := by
  rw [build_eq, Action.run_bind] at built
  rcases planned : draft.plan.run session with ⟨error | plan, middle⟩
  · rw [planned] at built
    cases built
  · rw [planned] at built
    obtain ⟨-, kind, gateway, identity, -, same⟩ := plan_ok planned
    obtain ⟨there, contents⟩ := Session.contents_of_register built
    exact ⟨there, kind, gateway, identity, same ▸ contents⟩

theorem parameters_of_build
    (built : draft.build.run session = (.ok id, after)) :
    (after.task id).inputs = draft.inputs ∧
      (after.task id).outputs = draft.outputs ∧
        (after.task id).rawParameters = draft.rawParameters := by
  obtain ⟨-, _, _, _, same⟩ := contents_of_build built
  exact ⟨Task.field_of_contents Task.inputs (fun _ => rfl) same,
    Task.field_of_contents Task.outputs (fun _ => rfl) same,
    Task.field_of_contents Task.rawParameters (fun _ => rfl) same⟩

end TaskDraft

theorem Task.localParameters_ok_iff {task : Task}
    {parameters : List Parameter} :
    task.localParameters = .ok parameters ↔
      ∃ inputs outputs, task.inputs.toParameters .input = .ok inputs ∧
        task.outputs.toParameters .output = .ok outputs ∧
        parameters = task.rawParameters ++ inputs ++ outputs := by
  rw [localParameters]
  cases task.inputs.toParameters .input with
  | error error => simp [bind, Except.bind]
  | ok inputs =>
      cases task.outputs.toParameters .output with
      | error error => simp [bind, Except.bind]
      | ok outputs => simp [bind, Except.bind, pure, Except.pure, eq_comm]

open ParameterMap (ofList)
open Operation (insertions performAll)

/-- Whatever is put into a map one after the other, each name is there once, in
the order in which the names came first, with the value that came last; nothing
else counts. From those values come the parameters, one for each name, or an
error if one of them has no type. A task that came out of a draft has the
parameters of the draft and those that were put in later, and it tells raw
parameters, inputs and outputs in this order, however the insertions of the two
kinds were mixed with each other and with other operations. -/
theorem Task.parameters_as_inserted :
    (∀ inserted : List (String × HostValue),
      (ofList inserted).Keeps inserted ∧
        (∀ direction parameters,
          (ofList inserted).toParameters direction = .ok parameters ↔
            List.Forall₂ (fun name parameter => ∃ value typed,
              inserted.reverse.lookup name = some value ∧
                value.infer = .ok typed ∧
                parameter = ⟨name, direction, typed.type, typed.value⟩)
              (ofList inserted).names parameters) ∧
        (∀ direction,
          (∃ error, (ofList inserted).toParameters direction = .error error) ↔
            ∃ name value error, inserted.reverse.lookup name = some value ∧
              value.infer = .error error) ∧
        ∀ other : List (String × HostValue),
          other.map (·.1) = inserted.map (·.1) →
          (∀ name, other.reverse.lookup name = inserted.reverse.lookup name) →
          ofList other = ofList inserted) ∧
      ∀ (draft : TaskDraft) (first : Direction → List (String × HostValue))
        (session built : Session) (id : TaskId) (operations : List Operation),
        draft.inputs = ofList (first .input) →
        draft.outputs = ofList (first .output) →
        draft.build.run session = (.ok id, built) →
        let after := performAll built operations
        (∀ direction, (after.task id).parameterMap direction =
          ofList (first direction ++ insertions id direction operations)) ∧
        (∀ parameters, (after.task id).localParameters = .ok parameters ↔
          ∃ inputs outputs,
            (ofList (first .input ++ insertions id .input operations)
              ).toParameters .input = .ok inputs ∧
            (ofList (first .output ++ insertions id .output operations)
              ).toParameters .output = .ok outputs ∧
            parameters = draft.rawParameters ++ inputs ++ outputs) ∧
        ∀ others : List Operation,
          (∀ direction, insertions id direction others =
            insertions id direction operations) →
          ((performAll built others).task id).localParameters =
            (after.task id).localParameters := by
  refine ⟨fun inserted => ?_, ?_⟩
  · have keeps := ParameterMap.keeps_ofList inserted
    exact ⟨keeps, fun _ _ => keeps.toParameters_ok_iff,
      fun _ => keeps.toParameters_error_iff,
      fun other names last =>
        (ParameterMap.keeps_ofList other).eq keeps names last⟩
  · intro draft first session built id operations inputs outputs completed
    obtain ⟨there, -⟩ := TaskDraft.contents_of_build completed
    obtain ⟨ins, outs, raw⟩ := TaskDraft.parameters_of_build completed
    have maps : ∀ operations direction,
        ((performAll built operations).task id).parameterMap direction =
          ofList (first direction ++ insertions id direction operations) := by
      intro operations direction
      rw [(Operation.receives_performAll there operations).map,
        ← ParameterMap.insertAll_ofList]
      cases direction with
      | input => rw [parameterMap, ins, inputs]
      | output => rw [parameterMap, outs, outputs]
    have raws : ∀ operations,
        ((performAll built operations).task id).rawParameters =
          draft.rawParameters := fun operations =>
      (Operation.receives_performAll there operations).raw.trans raw
    refine ⟨maps operations, fun parameters => ?_, fun others same => ?_⟩
    · rw [localParameters_ok_iff, raws, ← maps operations .input,
        ← maps operations .output]
      rfl
    · have alike : ∀ direction,
          ((performAll built others).task id).parameterMap direction =
            ((performAll built operations).task id).parameterMap direction :=
        fun direction => by rw [maps, maps, same]
      have inputsSame := alike .input
      have outputsSame := alike .output
      simp only [parameterMap] at inputsSame outputsSame
      rw [localParameters, localParameters, inputsSame, outputsSame, raws, raws]

/-- A value without a type does no harm once it is replaced. -/
theorem Task.parameters_as_inserted_mixed :
    let session := performAll { now := "" }
      [.openGateway {}, .openWorkflow { name := "w", gateway := ⟨0⟩ }]
    let draft : TaskDraft :=
      { name := "t", kind := .shell "", workflow := some ⟨0⟩,
        inputs := ofList [("a", .null), ("b", .int 1), ("a", .text "x")] }
    let mixed : List Operation :=
      [.addOutput ⟨0⟩ "y" (.json .null), .addInput ⟨0⟩ "c" (.bool true),
        .submit ⟨0⟩, .addOutput ⟨0⟩ "y" (.text ""), .addInput ⟨0⟩ "b" (.int 2)]
    let sorted : List Operation :=
      [.addInput ⟨0⟩ "c" (.bool true), .addInput ⟨0⟩ "b" (.int 2),
        .addOutput ⟨0⟩ "y" (.json .null), .addOutput ⟨0⟩ "y" (.text "")]
    ∃ built, draft.build.run session = (.ok ⟨0⟩, built) ∧
      ((performAll built mixed).task ⟨0⟩).localParameters =
        .ok [⟨"a", .input, .varchar, .string "x"⟩,
          ⟨"b", .input, .integer, .ofInt 2⟩,
          ⟨"c", .input, .boolean, .bool true⟩,
          ⟨"y", .output, .varchar, .string ""⟩] ∧
      ((performAll built sorted).task ⟨0⟩).localParameters =
        ((performAll built mixed).task ⟨0⟩).localParameters := by
  intro session draft mixed sorted
  have succeeds : (draft.build.run session).1 = .ok ⟨0⟩ := by decide +kernel
  refine ⟨_, Prod.ext succeeds rfl, ?_⟩
  obtain ⟨-, parameters, alike⟩ := Task.parameters_as_inserted.2 draft
    (fun | .input => _ | .output => []) session _ ⟨0⟩ mixed rfl rfl
    (Prod.ext succeeds rfl)
  refine ⟨(parameters _).mpr ⟨_, _, rfl, rfl, rfl⟩, alike sorted ?_⟩
  rintro (_ | _) <;> rfl

end Orchestration
