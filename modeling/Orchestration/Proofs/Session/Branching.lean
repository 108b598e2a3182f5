import Orchestration.Proofs.Session.Switching

namespace Orchestration

/-! The branches of a switch: how many defaults they may have, the record that
is made of them, and the tasks that the switch is linked with. -/

namespace Json

/-- The nodes of the result of a switch: one for each condition, then the
default. -/
def destinations (result : Json) : List Json :=
  (((result.field? "dependTaskList").map items).getD []).filterMap
      (·.field? "nextNode") ++
    (result.field? "nextNode").toList

end Json

def Branch.Tells (code : TaskId → Int) (branch : Branch) (entry : Json) :
    Prop :=
  ∃ condition, branch.condition = some condition ∧
    entry = .object [("condition", .string condition),
      ("nextNode", .ofInt (code branch.task))]

namespace Switch

variable {branches : List Branch} {choice : Switch} {entries : List Json}

theorem ofBranches_ok_iff :
    ofBranches branches = .ok choice ↔ choice.branches = branches := by
  rw [ofBranches]
  split
  next single =>
    constructor
    · intro made
      cases made
      rfl
    · rintro rfl
      rfl
  next several =>
    refine iff_of_false nofun ?_
    rintro rfl
    exact several choice.single

theorem ofBranches_error_iff {error : Error} :
    ofBranches branches = .error error ↔
      ¬ (branches.filter (·.isDefault)).length ≤ 1 ∧
        error = .parameter .severalDefaults := by
  rw [ofBranches]
  split
  next single => exact iff_of_false nofun fun both => both.1 single
  next several =>
    rw [Except.error.injEq, eq_comm]
    exact (and_iff_right several).symm

theorem single_iff_pairwise :
    (branches.filter (·.isDefault)).length ≤ 1 ↔
      branches.Pairwise fun first second =>
        ¬ (first.isDefault = true ∧ second.isDefault = true) := by
  have filtered : (branches.filter (·.isDefault)).Pairwise (fun _ _ => False) ↔
      branches.Pairwise fun first second =>
        ¬ (first.isDefault = true ∧ second.isDefault = true) := by
    rw [List.pairwise_filter]
    simp only [not_and, imp_false]
  rw [← filtered]
  generalize branches.filter (·.isDefault) = defaults
  match defaults with
  | [] => simp
  | [_] => simp
  | _ :: _ :: _ =>
      refine iff_of_false (by simp) fun pairs => ?_
      exact List.rel_of_pairwise_cons pairs List.mem_cons_self

section Result

variable (code : TaskId → Int)

theorem tells_conditional (branches : List Branch) :
    List.Forall₂ (Branch.Tells code) (branches.filter (!·.isDefault))
      (branches.filterMap (conditional? code)) := by
  induction branches with
  | nil => exact .nil
  | cons branch rest induction =>
      rw [List.filter_cons, List.filterMap_cons, conditional?,
        Branch.isDefault]
      cases condition : branch.condition with
      | none => exact induction
      | some text => exact .cons ⟨text, condition, rfl⟩ induction

theorem nextNode_of_tells
    (all : List.Forall₂ (Branch.Tells code) branches entries) :
    entries.filterMap (·.field? "nextNode") =
      branches.map fun branch => .ofInt (code branch.task) := by
  induction all with
  | nil => rfl
  | cons first _ induction =>
      obtain ⟨condition, -, rfl⟩ := first
      rw [List.map_cons, ← induction]
      rfl

theorem field?_dependTaskList (choice : Switch) :
    (choice.result code).field? "dependTaskList" =
      some (.array (choice.branches.filterMap (conditional? code))) := by
  rw [result]
  cases choice.branches.find? (·.isDefault) <;> rfl

theorem field?_nextNode (choice : Switch) :
    (choice.result code).field? "nextNode" =
      (choice.branches.find? (·.isDefault)).map fun branch =>
        .ofInt (code branch.task) := by
  rw [result]
  cases choice.branches.find? (·.isDefault) <;> rfl

theorem mem_nextNode_iff (choice : Switch) {node : Json} :
    (choice.result code).field? "nextNode" = some node ↔
      ∃ branch ∈ choice.branches, branch.isDefault = true ∧
        node = .ofInt (code branch.task) := by
  rw [field?_nextNode, Option.map_eq_some_iff]
  constructor
  · rintro ⟨branch, found, rfl⟩
    exact ⟨branch, List.mem_of_find?_eq_some found,
      List.find?_some found, rfl⟩
  · rintro ⟨branch, member, isDefault, rfl⟩
    exact ⟨branch, find?_isDefault member isDefault, rfl⟩

theorem destinations_result (choice : Switch) :
    (choice.result code).destinations.Perm
      (choice.branches.map fun branch => .ofInt (code branch.task)) := by
  have conditional := nextNode_of_tells code
    (tells_conditional code choice.branches)
  have default : ((choice.result code).field? "nextNode").toList =
      (choice.branches.filter (·.isDefault)).map fun branch =>
        .ofInt (code branch.task) := by
    rw [field?_nextNode, Option.toList_map, toList_find?_isDefault]
  rw [Json.destinations, field?_dependTaskList, Option.map_some,
    Option.getD_some, Json.items, conditional, default, ← List.map_append]
  apply List.Perm.map
  have parted := List.filter_append_perm (!·.isDefault) choice.branches
  simpa only [Bool.not_not] using parted

theorem mem_destinations_iff (choice : Switch) {target : Int} :
    .ofInt target ∈ (choice.result code).destinations ↔
      ∃ task ∈ choice.tasks, code task = target := by
  rw [(choice.destinations_result code).mem_iff, tasks, List.mem_map]
  constructor
  · rintro ⟨branch, member, same⟩
    exact ⟨branch.task, List.mem_map_of_mem member, Json.ofInt_inj same⟩
  · rintro ⟨_, reached, rfl⟩
    obtain ⟨branch, member, rfl⟩ := List.mem_map.mp reached
    exact ⟨branch, member, rfl⟩

end Result

/-- The record of branches: those with conditions in their order, and the
default if there is one, so that every branch leads to its task once. -/
structure Describes (branches : List Branch) (code : TaskId → Int)
    (record : Json) : Prop where
  conditional : ∃ entries,
    record.field? "dependTaskList" = some (.array entries) ∧
      List.Forall₂ (Branch.Tells code) (branches.filter (!·.isDefault)) entries
  default : ∀ node, record.field? "nextNode" = some node ↔
    ∃ branch ∈ branches, branch.isDefault = true ∧
      node = .ofInt (code branch.task)
  destinations : record.destinations.Perm
    (branches.map fun branch => .ofInt (code branch.task))

theorem result_describes (choice : Switch) (code : TaskId → Int) :
    Describes choice.branches code (choice.result code) where
  conditional := ⟨_, choice.field?_dependTaskList code,
    tells_conditional code choice.branches⟩
  default _ := choice.mem_nextNode_iff code
  destinations := choice.destinations_result code

end Switch

namespace Session

/-- A switch in a session: it is described by its choice, its successors have
the codes that it leads to, and the tasks of its branches know it. -/
structure Routed (session : Session) (task : TaskId) (choice : Switch) :
    Prop where
  kind : (session.task task).kind = .switch choice
  described : ∀ parameters after,
    (taskParameters task).run session = (.ok parameters, after) →
      parameters.find? "switchResult" =
        some (choice.result fun id => (session.task id).code)
  successors : ∀ code, code ∈ (session.task task).successors.toList ↔
    .ofInt code ∈
      (choice.result fun id => (session.task id).code).destinations
  predecessors : ∀ branch ∈ choice.tasks,
    (session.task task).code ∈ (session.task branch).predecessors.toList

end Session

namespace TaskDraft

variable {draft : TaskDraft} {session after : Session} {task : TaskId}
  {choice : Switch}

theorem resolvedKind_switch (kind : draft.kind = .switch choice)
    (workflow : Workflow) :
    (draft.resolvedKind workflow).run = .ok (.switch choice) := by
  rw [resolvedKind, kind]
  rfl

theorem build_routed (run : Run session) (kind : draft.kind = .switch choice)
    (possible : (Operation.build draft).isPossible session = true)
    (built : draft.build.run session = (.ok task, after)) :
    after.Routed task choice := by
  obtain ⟨id, made, identity, found, resolved, -, -, -, adds⟩ :=
    build_ok built
  have adds :=
    adds (run.consistent.hasWorkflow_of_workflowIn possible found)
  obtain rfl : TaskKind.switch choice = made :=
    Except.ok.inj ((resolvedKind_switch kind _).symm.trans resolved)
  have isSwitch : (after.task task).kind = .switch choice :=
    adds.new_field Task.kind fun _ => rfl
  have links : (Operation.build draft).links session =
      choice.tasks.map fun branch => (task, branch) := by
    simp only [Operation.links, built, kind, TaskKind.branchTasks]
  have old := Session.remembers_linked run
  have remembers := old.perform possible
  rw [Operation.perform, built, links] at remembers
  have linked : ∀ other,
      (task, other) ∈ choice.tasks.map (fun branch => (task, branch)) ∨
        run.Linked task other ↔ other ∈ choice.tasks := by
    intro other
    have unlinked : ¬ run.Linked task other := by
      intro link
      have present := (old.present task other link).1
      rw [adds.fresh] at present
      cases present
    simp [unlinked]
  refine ⟨isSwitch, fun parameters last completed =>
    Session.switchResult_of_taskParameters isSwitch completed, ?_, ?_⟩
  · intro code
    rw [Switch.mem_destinations_iff]
    have known := remembers.codes .successors task code
    simp only [Session.Side.sees, linked] at known
    exact known
  · intro branch member
    apply (remembers.codes .predecessors branch _).mpr
    exact ⟨task, .inl (List.mem_map_of_mem member), rfl⟩

end TaskDraft

/-- A switch can be made of branches just if at most one of them is a default.
Its record then has every branch, and wherever it is built, it is linked with
just the tasks that its record leads to. -/
theorem Switch.branching (branches : List Branch) :
    ((∃ choice, ofBranches branches = .ok choice) ↔
      branches.Pairwise fun first second =>
        ¬ (first.isDefault = true ∧ second.isDefault = true)) ∧
    (∀ error, ofBranches branches = .error error →
      error = .parameter .severalDefaults) ∧
    ∀ choice, ofBranches branches = .ok choice →
      choice.tasks = branches.map (·.task) ∧
      (∀ code, Describes branches code (choice.result code)) ∧
      ∀ {session after : Session} (_ : Run session) (draft : TaskDraft)
        (task : TaskId), draft.kind = .switch choice →
        (Operation.build draft).isPossible session = true →
        draft.build.run session = (.ok task, after) →
          after.Routed task choice := by
  refine ⟨?_, fun error failed => (ofBranches_error_iff.mp failed).2, ?_⟩
  · rw [← single_iff_pairwise]
    simp only [ofBranches_ok_iff]
    constructor
    · rintro ⟨choice, rfl⟩
      exact choice.single
    · exact fun single => ⟨⟨branches, single⟩, rfl⟩
  · intro choice made
    obtain rfl := ofBranches_ok_iff.mp made
    exact ⟨rfl, choice.result_describes, fun run draft task kind possible built =>
      TaskDraft.build_routed run kind possible built⟩

def repeatedBranches : List Branch :=
  [⟨⟨0⟩, some "x"⟩, ⟨⟨1⟩, none⟩, ⟨⟨0⟩, some "y"⟩]

def parted : Session := Operation.performAll { now := "" } (forking.take 5)

def Run.toParted : Run parted :=
  (Run.start "").extend (forking.take 5) (by decide +kernel)

theorem Switch.branching_repeated :
    let choice : Switch := ⟨repeatedBranches, by decide⟩
    let draft : TaskDraft :=
      { name := "s", kind := .switch choice, workflow := some ⟨0⟩ }
    ofBranches repeatedBranches = .ok choice ∧
      ∃ after, draft.build.run parted = (.ok ⟨2⟩, after) ∧
        Describes repeatedBranches (fun id => (after.task id).code)
          (choice.result fun id => (after.task id).code) ∧
        after.Routed ⟨2⟩ choice := by
  intro choice draft
  have made : ofBranches repeatedBranches = .ok choice := by rfl
  have outcome : (draft.build.run parted).1 = .ok ⟨2⟩ := by decide +kernel
  have built : draft.build.run parted =
      (.ok ⟨2⟩, (draft.build.run parted).2) := Prod.ext outcome rfl
  obtain ⟨-, -, lossless⟩ := branching repeatedBranches
  obtain ⟨-, describes, routed⟩ := lossless choice made
  exact ⟨made, _, built, describes _,
    routed Run.toParted draft ⟨2⟩ rfl (by decide +kernel) built⟩

end Orchestration
