import Orchestration.Proofs.Json.Access
import Orchestration.Proofs.Session.Ownership

namespace Orchestration

open SortedMap

theorem TaskDefinition.field?_code (definition : TaskDefinition) :
    definition.toJson.sorted.field? "code" =
      some (.ofInt definition.code) := by
  apply Json.field?_sorted_ofInt
  cases definition.cpuQuota <;> cases definition.memoryMax <;> rfl

namespace Relation

theorem field?_preTaskCode (relation : Relation) :
    relation.toJson.sorted.field? "preTaskCode" =
      some (.ofInt relation.pre) :=
  Json.field?_sorted_ofInt rfl

theorem field?_postTaskCode (relation : Relation) :
    relation.toJson.sorted.field? "postTaskCode" =
      some (.ofInt relation.post) :=
  Json.field?_sorted_ofInt rfl

end Relation

namespace Session

variable {session after : Session} {id : WorkflowId}

theorem code_of_taskDefinition {task : TaskId} {definition : TaskDefinition}
    (completed : (taskDefinition task).run session = (.ok definition, after)) :
    definition.code = (session.task task).code := by
  obtain ⟨_, reached, read, completed⟩ := Action.bind_ok completed
  obtain ⟨_, middle, asked, completed⟩ := Action.bind_ok completed
  obtain ⟨_, _, got, completed⟩ := Action.bind_ok completed
  obtain ⟨rfl, rfl⟩ := Action.get_ok got
  obtain ⟨same, -⟩ := Action.pure_ok completed
  have first := sameObjects_of_run (taskParameters_describes task).respects read
  have second :=
    sameObjects_of_run (environmentCode_describes task).respects asked
  rw [← same, second.task, first.task]

/-- The task was described so when all objects were as they are. -/
def Described (session : Session) (task : TaskId)
    (definition : TaskDefinition) : Prop :=
  ∃ before after, SameObjects session before ∧
    (taskDefinition task).run before = (.ok definition, after)

theorem Described.code {task : TaskId} {definition : TaskDefinition}
    (described : session.Described task definition) :
    definition.code = (session.task task).code := by
  obtain ⟨before, after, same, completed⟩ := described
  rw [code_of_taskDefinition completed, same.task]

theorem taskDefinitions_ok {tasks : List TaskId}
    {definitions : List TaskDefinition}
    (completed :
      (taskDefinitions tasks).run session = (.ok definitions, after)) :
    List.Forall₂ session.Described tasks definitions := by
  suffices ∀ before, SameObjects session before →
      (taskDefinitions tasks).run before = (.ok definitions, after) →
      List.Forall₂ session.Described tasks definitions from
    this session ⟨rfl, rfl, rfl⟩ completed
  clear completed
  induction tasks generalizing definitions with
  | nil =>
      intro before _ completed
      obtain ⟨same, -⟩ := Action.pure_ok completed
      rw [← same]
      exact .nil
  | cons task rest induction =>
      intro before same completed
      obtain ⟨definition, middle, first, completed⟩ :=
        Action.bind_ok completed
      obtain ⟨others, last, second, completed⟩ := Action.bind_ok completed
      obtain ⟨rfl, rfl⟩ := Action.pure_ok completed
      have kept :=
        sameObjects_of_run (taskDefinition_describes task).respects first
      exact .cons ⟨before, middle, same, first⟩
        (induction middle (same.trans kept) second)

theorem codes_of_taskDefinitions {tasks : List TaskId}
    {definitions : List TaskDefinition}
    (described : List.Forall₂ session.Described tasks definitions) :
    definitions.map (·.code) =
      tasks.map fun task => (session.task task).code := by
  induction described with
  | nil => rfl
  | cons first _ induction =>
      rw [List.map_cons, List.map_cons, induction, first.code]

theorem Consistent.codes_taskIds (consistent : Consistent session)
    (alive : session.isAlive id) :
    (session.taskIds id).map (fun task => (session.task task).code) =
      (session.workflow id).tasks.keys := by
  rw [taskIds, values, keys, List.map_map]
  apply List.map_congr_left
  intro entry member
  obtain ⟨code, task⟩ := entry
  exact (consistent.listed id code task alive
    (find?_eq_some_iff.mpr member)).1

theorem definitionList_described {document : Json}
    (some : (session.workflow id).tasks.isEmpty = false)
    (completed : (definitionList id).run session = (.ok document, after)) :
    ∃ definitions : List TaskDefinition,
      document = .array (definitions.map (·.toJson.sorted)) ∧
        List.Forall₂ session.Described (session.taskIds id) definitions := by
  rw [definitionList, Action.run_get_bind, if_neg (by simp [some])]
    at completed
  obtain ⟨definitions, _, listed, completed⟩ := Action.bind_ok completed
  obtain ⟨same, -⟩ := Action.pure_ok completed
  exact ⟨definitions, same.symm, taskDefinitions_ok listed⟩

theorem Consistent.codes_described (consistent : Consistent session)
    (alive : session.isAlive id) {definitions : List TaskDefinition}
    (described :
      List.Forall₂ session.Described (session.taskIds id) definitions) :
    (definitions.map (·.toJson.sorted)).map (·.field? "code") =
      (session.workflow id).tasks.keys.map fun code =>
        some (.ofInt code) := by
  rw [← consistent.codes_taskIds alive, ← codes_of_taskDefinitions described]
  simp [TaskDefinition.field?_code]

theorem definitionList_ok (consistent : Consistent session)
    (alive : session.isAlive id) {document : Json}
    (some : (session.workflow id).tasks.isEmpty = false)
    (completed : (definitionList id).run session = (.ok document, after)) :
    ∃ definitions : List Json, document = .array definitions ∧
      definitions.map (·.field? "code") =
        (session.workflow id).tasks.keys.map fun code =>
          Option.some (.ofInt code) := by
  obtain ⟨definitions, same, described⟩ :=
    definitionList_described some completed
  exact ⟨_, same, consistent.codes_described alive described⟩

theorem relationList_ok (present : session.hasWorkflow id) {document : Json}
    (some : (session.workflow id).tasks.isEmpty = false)
    (completed : (relationList id).run session = (.ok document, after)) :
    ∃ relations : List Json, document = .array relations ∧
      relations.map (fun relation =>
          (relation.field? "preTaskCode", relation.field? "postTaskCode")) =
        ((session.workflow id).relations.withRoots
          (session.workflow id).tasks.keys).keys.map fun ends =>
            (Option.some (.ofInt ends.pre),
              Option.some (.ofInt ends.post)) := by
  rw [relationList_run, if_neg (by simp [some]), Prod.mk.injEq,
    Except.ok.injEq] at completed
  obtain ⟨same, -⟩ := completed
  have changed : (session.synthesizeRoots id).workflow id =
      (session.workflow id).withRoots :=
    workflow_updateWorkflow_self present _
  rw [changed, Workflow.relationList,
    if_neg (by simpa [Workflow.withRoots] using some), Json.sorted,
    Json.sortedItems_eq] at same
  refine ⟨_, same.symm, ?_⟩
  simp [Workflow.withRoots, Relation.field?_preTaskCode,
    Relation.field?_postTaskCode, RelationSet.toList, keys]

theorem definitionList_empty
    (none : (session.workflow id).tasks.isEmpty = true) :
    (definitionList id).run session = (.ok Workflow.emptyList, session) := by
  rw [definitionList, Action.run_get_bind, if_pos none]
  rfl

theorem relationList_empty
    (none : (session.workflow id).tasks.isEmpty = true) :
    (relationList id).run session = (.ok Workflow.emptyList, session) := by
  rw [relationList_run, if_pos none]

theorem definition_ok {record : WorkflowDefinition}
    (completed : (definition id).run session = (.ok record, after)) :
    ∃ definitions middle relations last,
      (definitionList id).run session = (.ok definitions, middle) ∧
        SameObjects session middle ∧
        (relationList id).run middle = (.ok relations, last) ∧
        record.taskDefinitionJson = definitions.compact ∧
        record.taskRelationJson = relations.compact := by
  obtain ⟨definitions, middle, relations, listed, related, -, -, -, first,
    second⟩ := definition_parts completed
  have kept := sameObjects_of_run (definitionList_describes id).respects listed
  exact ⟨definitions, middle, relations, after, listed, kept, related, first,
    second⟩

/-- The documents of a submission agree: one lists the tasks by their codes, and
the other has a way from the root to every one of them and to no other. -/
theorem documents (run : Run session) (alive : session.isAlive id)
    {record : WorkflowDefinition}
    (completed : (definition id).run session = (.ok record, after)) :
    ((session.workflow id).tasks.isEmpty = true →
      record.taskDefinitionJson = "[\x7b\x7d]" ∧
        record.taskRelationJson = "[\x7b\x7d]") ∧
      ((session.workflow id).tasks.isEmpty = false →
        (session.workflow id).tasks.keys.Pairwise (· < ·) ∧
        (∃ definitions : List Json,
          record.taskDefinitionJson = (Json.array definitions).compact ∧
            definitions.map (·.field? "code") =
              (session.workflow id).tasks.keys.map fun code =>
                some (.ofInt code)) ∧
        ∃ (relations : List Json) (ends : List Endpoints),
          record.taskRelationJson = (Json.array relations).compact ∧
            relations.map (fun relation =>
                (relation.field? "preTaskCode",
                  relation.field? "postTaskCode")) =
              ends.map (fun each =>
                (some (.ofInt each.pre), some (.ofInt each.post))) ∧
            RelationSet.Rooted (session.workflow id).tasks.keys ends) := by
  obtain ⟨definitions, middle, relations, last, listed, kept, related,
    definitionText, relationText⟩ := definition_ok completed
  rw [definitionText, relationText]
  constructor
  · intro none
    rw [definitionList_empty none] at listed
    cases listed
    rw [relationList_empty none] at related
    cases related
    exact ⟨rfl, rfl⟩
  · intro some
    have consistent := run.consistent
    have present : middle.hasWorkflow id := by
      rw [hasWorkflow, kept.workflows]
      exact consistent.present id alive
    obtain ⟨definitions, rfl, codes⟩ :=
      definitionList_ok consistent alive some listed
    rw [← kept.workflow] at some
    obtain ⟨relations, rfl, ends⟩ := relationList_ok present some related
    rw [kept.workflow] at ends
    refine ⟨?_, ⟨definitions, rfl, codes⟩, relations, _, rfl, ends, ?_⟩
    · exact (keys_ascending _).imp of_decide_eq_true
    · exact RelationSet.rooted_withRoots
        (fun each => consistent.post id each alive)
        (fun each => consistent.pre id each alive)

theorem documents_crossed :
    crossed.isAlive ⟨0⟩ = true ∧
      ∃ record after,
        (definition ⟨0⟩).run crossed = (.ok record, after) ∧
        ∃ (relations : List Json) (ends : List Endpoints),
          record.taskRelationJson = (Json.array relations).compact ∧
            relations.length = ends.length ∧
            RelationSet.Rooted [1000, 1001] ends := by
  have alive : crossed.isAlive ⟨0⟩ = true := by decide +kernel
  have some : (crossed.workflow ⟨0⟩).tasks.isEmpty = false := by
    decide +kernel
  have codes : (crossed.workflow ⟨0⟩).tasks.keys = [1000, 1001] := by
    decide +kernel
  have succeeds : ((definition ⟨0⟩).run crossed).1.isOk = true := by
    decide +kernel
  cases completed : (definition ⟨0⟩).run crossed with
  | mk outcome after =>
      rw [completed] at succeeds
      cases outcome with
      | error error => cases succeeds
      | ok record =>
          obtain ⟨-, -, relations, ends, text, read, rooted⟩ :=
            (documents Run.toCrossed alive completed).2 some
          rw [codes] at rooted
          have length := congrArg List.length read
          rw [List.length_map, List.length_map] at length
          exact ⟨alive, record, after, rfl, relations, ends, text, length,
            rooted⟩

end Session

end Orchestration
