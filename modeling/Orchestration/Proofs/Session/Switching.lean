import Orchestration.Proofs.Session.Keeping
import Orchestration.Proofs.Session.Neighbour
import Orchestration.Proofs.Session.Submitted

namespace Orchestration

/-! Switches in the documents of a workflow: where they lead to, and what the
workflow has of it. -/

namespace Json

/-- The nodes that the record of a switch leads to, the default among them. -/
def nextNodes (record : Json) : List Json :=
  match (record.field? "taskParams").bind (·.field? "switchResult") with
  | some result =>
      (((result.field? "dependTaskList").map items).getD []).filterMap
          (·.field? "nextNode") ++
        (result.field? "nextNode").toList
  | none => []

def HasTask (records : List Json) (code : Json) : Prop :=
  ∃ record ∈ records, record.field? "code" = some code

def HasRelation (records : List Json) (pre post : Json) : Prop :=
  ∃ record ∈ records, record.field? "preTaskCode" = some pre ∧
    record.field? "postTaskCode" = some post

instance (records : List Json) (code : Json) :
    Decidable (HasTask records code) :=
  inferInstanceAs (Decidable (∃ _ ∈ _, _))

instance (records : List Json) (pre post : Json) :
    Decidable (HasRelation records pre post) :=
  inferInstanceAs (Decidable (∃ _ ∈ _, _))

end Json

namespace Switch

variable {choice : Switch} {branch : Branch}

theorem toList_find?_isDefault (choice : Switch) :
    (choice.branches.find? (·.isDefault)).toList =
      choice.branches.filter (·.isDefault) := by
  have single := choice.single
  rw [← List.head?_filter]
  generalize choice.branches.filter (·.isDefault) = defaults at single ⊢
  match defaults with
  | [] => rfl
  | [only] => rfl
  | _ :: _ :: _ => simp at single

theorem find?_isDefault (member : branch ∈ choice.branches)
    (isDefault : branch.isDefault = true) :
    choice.branches.find? (·.isDefault) = some branch := by
  have listed : branch ∈ choice.branches.filter (·.isDefault) :=
    List.mem_filter.mpr ⟨member, isDefault⟩
  rw [← toList_find?_isDefault] at listed
  exact Option.mem_toList.mp listed

variable (code : TaskId → Int)

theorem dependTaskList_result (choice : Switch) :
    (choice.result code).sorted.field? "dependTaskList" =
      some (Json.array (choice.branches.filterMap (conditional? code))).sorted := by
  rw [result]
  cases choice.branches.find? (·.isDefault) with
  | some branch =>
      refine Json.field?_sorted rfl ?_
      exact nofun
  | none =>
      refine Json.field?_sorted rfl ?_
      exact nofun

theorem nextNode_result (choice : Switch) :
    (choice.result code).sorted.field? "nextNode" =
      (choice.branches.find? (·.isDefault)).map fun branch =>
        .ofInt (code branch.task) := by
  rw [result]
  cases choice.branches.find? (·.isDefault) with
  | some branch => exact Json.field?_sorted_ofInt rfl
  | none => exact Json.field?_sorted_none rfl

theorem nextNode_conditional {entry : Json}
    (found : conditional? code branch = some entry) :
    entry.sorted.field? "nextNode" = some (.ofInt (code branch.task)) := by
  rw [conditional?, Option.map_eq_some_iff] at found
  obtain ⟨condition, -, rfl⟩ := found
  exact Json.field?_sorted_ofInt rfl

end Switch

namespace TaskDefinition

variable {definition : TaskDefinition}

theorem field?_taskType (definition : TaskDefinition) :
    definition.toJson.sorted.field? "taskType" =
      some (.string definition.taskType) := by
  change _ = some (Json.string definition.taskType).sorted
  apply Json.field?_sorted
  · cases definition.cpuQuota <;> cases definition.memoryMax <;> rfl
  · exact nofun

theorem field?_taskParams (definition : TaskDefinition) :
    definition.toJson.sorted.field? "taskParams" =
      some (Json.ofMap definition.taskParams).sorted := by
  apply Json.field?_sorted
  · cases definition.cpuQuota <;> cases definition.memoryMax <;> rfl
  · exact nofun

theorem mem_nextNodes_iff {choice : Switch} {code : TaskId → Int}
    (found : definition.taskParams.find? "switchResult" =
      some (choice.result code)) {node : Json} :
    node ∈ definition.toJson.sorted.nextNodes ↔
      ∃ branch ∈ choice.tasks, node = .ofInt (code branch) := by
  have something : (choice.result code).sorted ≠ .null := by
    rw [Switch.result]
    split <;> exact nofun
  have result : (Json.ofMap definition.taskParams).sorted.field?
      "switchResult" = some (choice.result code).sorted := by
    apply Json.field?_sorted _ something
    rw [SortedMap.lookup_reverse_entries, found]
  have nodes : definition.toJson.sorted.nextNodes =
      ((choice.branches.filterMap (Switch.conditional? code)).map
          Json.sorted).filterMap (·.field? "nextNode") ++
        ((choice.branches.find? (·.isDefault)).map fun branch =>
          Json.ofInt (code branch.task)).toList := by
    simp only [Json.nextNodes, field?_taskParams, Option.bind_some, result,
      Switch.dependTaskList_result, Switch.nextNode_result, Option.map_some,
      Option.getD_some, Json.sorted, Json.sortedItems_eq, Json.items]
  rw [nodes, List.mem_append, List.mem_filterMap, Option.mem_toList,
    Option.map_eq_some_iff]
  constructor
  · rintro (⟨_, listed, next⟩ | ⟨branch, isDefault, rfl⟩)
    · obtain ⟨entry, made, rfl⟩ := List.mem_map.mp listed
      obtain ⟨branch, member, found⟩ := List.mem_filterMap.mp made
      rw [Switch.nextNode_conditional code found] at next
      cases next
      exact ⟨branch.task, List.mem_map_of_mem member, rfl⟩
    · have member := List.mem_of_find?_eq_some isDefault
      exact ⟨branch.task, List.mem_map_of_mem member, rfl⟩
  · rintro ⟨_, reached, rfl⟩
    obtain ⟨branch, member, rfl⟩ := List.mem_map.mp reached
    cases condition : branch.condition with
    | none =>
        have isDefault : branch.isDefault = true := by
          rw [Branch.isDefault, condition]
          rfl
        exact .inr ⟨branch, Switch.find?_isDefault member isDefault, rfl⟩
    | some text =>
        have found : ∃ entry, Switch.conditional? code branch = some entry := by
          rw [Switch.conditional?, condition]
          exact ⟨_, rfl⟩
        obtain ⟨entry, found⟩ := found
        exact .inl ⟨entry.sorted, List.mem_map_of_mem
          (List.mem_filterMap.mpr ⟨branch, member, found⟩),
          Switch.nextNode_conditional code found⟩

end TaskDefinition

namespace Session

variable {session after : Session} {task : TaskId} {choice : Switch}

theorem switchResult_of_taskParameters {parameters : SortedMap String Json}
    (kind : (session.task task).kind = .switch choice)
    (completed :
      (taskParameters task).run session = (.ok parameters, after)) :
    parameters.find? "switchResult" =
      some (choice.result fun id => (session.task id).code) := by
  obtain ⟨_, _, got, completed⟩ := Action.bind_ok completed
  obtain ⟨rfl, rfl⟩ := Action.get_ok got
  obtain ⟨standard, middle, first, completed⟩ := Action.bind_ok completed
  obtain ⟨own, _, second, completed⟩ := Action.bind_ok completed
  obtain ⟨rfl, -⟩ := Action.pure_ok completed
  have same :=
    sameObjects_of_run (standardFields_describes task _).respects first
  rw [kindFields, Action.run_get_bind, same.task, kind] at second
  obtain ⟨rfl, -⟩ := Action.pure_ok second
  simp only [same.task, SortedMap.find?_ofList, List.reverse_append,
    List.reverse_singleton, List.singleton_append, List.lookup_cons_self]

theorem Described.switchResult {definition : TaskDefinition}
    (described : session.Described task definition)
    (kind : (session.task task).kind = .switch choice) :
    definition.taskType = TaskKind.switchType ∧
      definition.taskParams.find? "switchResult" =
        some (choice.result fun id => (session.task id).code) := by
  obtain ⟨before, last, same, completed⟩ := described
  obtain ⟨parameters, middle, read, completed⟩ := Action.bind_ok completed
  obtain ⟨_, asked, environment, completed⟩ := Action.bind_ok completed
  obtain ⟨_, _, got, completed⟩ := Action.bind_ok completed
  obtain ⟨rfl, rfl⟩ := Action.get_ok got
  obtain ⟨rfl, -⟩ := Action.pure_ok completed
  have first := same.trans
    (sameObjects_of_run (taskParameters_describes task).respects read)
  have second := first.trans
    (sameObjects_of_run (environmentCode_describes task).respects environment)
  constructor
  · change (asked.task task).kind.type = _
    rw [second.task, kind, TaskKind.type]
  · rw [← same.task] at kind
    have found := switchResult_of_taskParameters kind read
    simpa only [same.task] using found

end Session

theorem Run.linked_branch (run : Run session) {task branch : TaskId}
    (present : session.hasTask task)
    (member : branch ∈ (session.task task).kind.branchTasks) :
    run.Linked task branch := by
  induction run with
  | start now => cases present
  | @step before run operation possible induction =>
      cases isBuild : operation.isBuild with
      | false =>
          have keeps := @Operation.keeps_perform before operation isBuild
          rw [keeps.hasTask] at present
          rw [keeps.field Task.kind fun _ => rfl] at member
          exact .inr (induction present member)
      | true =>
          obtain ⟨draft, rfl⟩ := Operation.isBuild_iff.mp isBuild
          rw [Operation.perform] at present member
          rcases built : draft.build.run before with ⟨error | new, after⟩
          · have stays := TaskDraft.stays_of_failed built
            rw [built, stays.hasTask] at present
            rw [built, stays.toKeeps.field Task.kind fun _ => rfl] at member
            exact .inr (induction present member)
          · obtain ⟨id, kind, identity, found, resolved, -, -, -, adds⟩ :=
              TaskDraft.build_ok built
            have adds := adds
              (run.consistent.hasWorkflow_of_workflowIn possible found)
            rw [built, adds.hasTask] at present
            rw [built] at member
            rcases present with old | rfl
            · rw [adds.old_field Task.kind (fun _ => rfl) old] at member
              exact .inr (induction old member)
            · rw [adds.new_field Task.kind fun _ => rfl] at member
              have branches := TaskDraft.branchTasks_resolvedKind resolved
              left
              simp only [Operation.links, built, List.mem_map]
              exact ⟨branch, branches ▸ member, rfl⟩

namespace Json

theorem ofInt_inj {value other : Int} (same : ofInt value = ofInt other) :
    value = other := by
  injection same with same
  injection same

theorem hasTask_iff {definitions : List Json} {codes : List Int}
    (read : definitions.map (·.field? "code") =
      codes.map fun code => some (ofInt code)) {code : Int} :
    HasTask definitions (ofInt code) ↔ code ∈ codes := by
  have listed : HasTask definitions (ofInt code) ↔
      some (ofInt code) ∈ definitions.map (·.field? "code") :=
    List.mem_map.symm
  rw [listed, read, List.mem_map]
  constructor
  · rintro ⟨other, member, same⟩
    rwa [← ofInt_inj (Option.some.inj same)]
  · intro member
    exact ⟨code, member, rfl⟩

theorem hasRelation_iff {relations : List Json} {ends : List Endpoints}
    (read : relations.map (fun relation =>
        (relation.field? "preTaskCode", relation.field? "postTaskCode")) =
      ends.map fun each => (some (ofInt each.pre), some (ofInt each.post)))
    {pre post : Int} :
    HasRelation relations (ofInt pre) (ofInt post) ↔ ⟨pre, post⟩ ∈ ends := by
  have listed : HasRelation relations (ofInt pre) (ofInt post) ↔
      (some (ofInt pre), some (ofInt post)) ∈ relations.map fun relation =>
        (relation.field? "preTaskCode", relation.field? "postTaskCode") := by
    simp only [HasRelation, List.mem_map, Prod.mk.injEq]
  rw [listed, read, List.mem_map]
  constructor
  · rintro ⟨⟨first, second⟩, member, same⟩
    obtain ⟨firstSame, secondSame⟩ := Prod.mk.inj same
    rwa [← ofInt_inj (Option.some.inj firstSame),
      ← ofInt_inj (Option.some.inj secondSame)]
  · intro member
    exact ⟨_, member, rfl⟩

end Json

namespace Session

variable {session after : Session} {id : WorkflowId} {task : TaskId}
  {choice : Switch}

theorem exists_described {tasks : List TaskId}
    {definitions : List TaskDefinition} {definition : TaskDefinition}
    (described : List.Forall₂ session.Described tasks definitions)
    (member : definition ∈ definitions) :
    ∃ task ∈ tasks, session.Described task definition := by
  induction described with
  | nil => cases member
  | cons first _ induction =>
      rcases List.mem_cons.mp member with rfl | member
      · exact ⟨_, List.mem_cons_self, first⟩
      · obtain ⟨task, listed, described⟩ := induction member
        exact ⟨task, List.mem_cons_of_mem _ listed, described⟩

theorem described_of_code (consistent : session.Consistent)
    (alive : session.isAlive id) (registered : session.Registered id task)
    {definitions : List TaskDefinition} {definition : TaskDefinition}
    (described :
      List.Forall₂ session.Described (session.taskIds id) definitions)
    (member : definition ∈ definitions)
    (coded : definition.code = (session.task task).code) :
    session.Described task definition := by
  obtain ⟨other, listed, otherDescribed⟩ := exists_described described member
  obtain ⟨entry, found, rfl⟩ := List.mem_map.mp listed
  have found := SortedMap.find?_eq_some_iff.mpr found
  have otherRegistered : session.Registered id entry.2 := by
    rw [Registered, (consistent.listed id entry.1 entry.2 alive found).1]
    exact found
  rw [otherDescribed.code] at coded
  rwa [← otherRegistered.eq_of_code registered coded]

theorem mem_relations_iff_stands (run : Run session)
    (alive : session.isAlive id) (registered : session.Registered id task)
    (coded : (session.task task).code ≠ rootCode) {code : Int} :
    ⟨(session.task task).code, code⟩ ∈ (session.workflow id).relations.keys ↔
      ∃ other, run.Stands id task other ∧ (session.task other).code = code := by
  have tracks := tracks_stands run id
  constructor
  · intro member
    obtain ⟨name, found⟩ := SortedMap.mem_keys_iff.mp member
    have listed : (⟨(session.task task).code, code, name⟩ : Relation) ∈
        (session.workflow id).relations.toList :=
      RelationSet.mem_toList_iff.mpr found
    obtain ⟨pre, post, stands, same⟩ :=
      (tracks.relations _ alive coded).mp listed
    have first := (tracks.registered pre post alive stands).1
    have preCode : (session.task pre).code = (session.task task).code :=
      (congrArg Relation.pre same).symm
    cases first.eq_of_code registered preCode
    exact ⟨post, stands, (congrArg Relation.post same).symm⟩
  · rintro ⟨other, stands, rfl⟩
    have second := (tracks.registered task other alive stands).2
    exact (tracks.related_iff alive registered second coded).mpr stands

/-- The two lists that stand in the record of a workflow. -/
structure Documented (session : Session) (id : WorkflowId)
    (record : WorkflowDefinition) (definitions relations : List Json) :
    Prop where
  completed : ((definition id).run session).1 = .ok record
  listed : ∃ middle,
    (definitionList id).run session = (.ok (.array definitions), middle) ∧
      ((relationList id).run middle).1 = .ok (.array relations)
  definitionText :
    record.taskDefinitionJson = (Json.array definitions).compact
  relationText : record.taskRelationJson = (Json.array relations).compact

def written (session : Session) (task : TaskId) : Json :=
  .ofInt (session.task task).code

/-- What the documents of a workflow say about a switch. -/
structure Routes (session : Session) (run : Run session) (id : WorkflowId)
    (task : TaskId) (choice : Switch) (definitions relations : List Json) :
    Prop where
  defined : Json.HasTask definitions (session.written task)
  record : ∀ definition ∈ definitions,
    definition.field? "code" = some (session.written task) →
    definition.field? "taskType" = some (.string TaskKind.switchType) ∧
      ∀ node, node ∈ definition.nextNodes ↔
        ∃ branch ∈ choice.tasks, node = session.written branch
  linked : ∀ branch ∈ choice.tasks, run.Linked task branch
  known : ∀ branch ∈ choice.tasks,
    (Json.HasTask definitions (session.written branch) ↔
      (session.task branch).code ∈ (session.workflow id).tasks.keys)
  related : (session.task task).code ≠ rootCode → ∀ branch ∈ choice.tasks,
    (Json.HasRelation relations (session.written task)
        (session.written branch) ↔
      ∃ other, run.Stands id task other ∧
        (session.task other).code = (session.task branch).code)
  stands : (session.task task).code ≠ rootCode → ∀ branch ∈ choice.tasks,
    run.Stands id task branch →
    Json.HasTask definitions (session.written branch) ∧
      Json.HasRelation relations (session.written task)
        (session.written branch)

theorem Documented.routes {record : WorkflowDefinition}
    {definitions relations : List Json}
    (documented : Documented session id record definitions relations)
    (run : Run session) (alive : session.isAlive id)
    (registered : session.Registered id task)
    (kind : (session.task task).kind = .switch choice) :
    Routes session run id task choice definitions relations := by
  obtain ⟨middle, listed, related⟩ := documented.listed
  have consistent := run.consistent
  have kept := sameObjects_of_run (definitionList_describes id).respects listed
  have some : (session.workflow id).tasks.isEmpty = false := by
    rw [SortedMap.isEmpty, List.isEmpty_eq_false_iff_exists_mem]
    exact ⟨_, SortedMap.find?_eq_some_iff.mp registered⟩
  have present : middle.hasWorkflow id := by
    rw [hasWorkflow, kept.workflows]
    exact consistent.present id alive
  obtain ⟨records, same, described⟩ := definitionList_described some listed
  cases same
  rw [← kept.workflow] at some
  obtain ⟨_, same, ends⟩ :=
    relationList_ok present some (Prod.ext related rfl)
  cases same
  rw [kept.workflow] at ends
  have codes := consistent.codes_described alive described
  have isRelated : (session.task task).code ≠ rootCode → ∀ code,
      (Json.HasRelation relations (session.written task) (.ofInt code) ↔
        ∃ other, run.Stands id task other ∧
          (session.task other).code = code) := by
    intro coded code
    rw [written, Json.hasRelation_iff ends,
      RelationSet.mem_withRoots_of_ne coded,
      mem_relations_iff_stands run alive registered coded]
  refine ⟨?_, ?_, ?_, ?_, ?_, ?_⟩
  · rw [written, Json.hasTask_iff codes]
    exact SortedMap.mem_keys_iff.mpr ⟨task, registered⟩
  · intro definition member coded
    obtain ⟨record, listed, rfl⟩ := List.mem_map.mp member
    rw [TaskDefinition.field?_code] at coded
    have describes := described_of_code consistent alive registered
      described listed (Json.ofInt_inj (Option.some.inj coded))
    obtain ⟨type, result⟩ := describes.switchResult kind
    rw [TaskDefinition.field?_taskType, type]
    exact ⟨rfl, fun node => TaskDefinition.mem_nextNodes_iff result⟩
  · intro branch member
    apply run.linked_branch
    · exact consistent.hasTask_of_listed alive registered
    · rwa [kind]
  · intro branch _
    rw [written, Json.hasTask_iff codes]
  · exact fun coded branch _ => isRelated coded _
  · intro coded branch _ stands
    have second :=
      ((tracks_stands run id).registered task branch alive stands).2
    constructor
    · rw [written, Json.hasTask_iff codes]
      exact SortedMap.mem_keys_iff.mpr ⟨branch, second⟩
    · exact (isRelated coded _).mpr ⟨branch, stands, rfl⟩

theorem definitionList_array {document : Json}
    (completed : (definitionList id).run session = (.ok document, after)) :
    ∃ definitions, document = .array definitions := by
  cases some : (session.workflow id).tasks.isEmpty with
  | true =>
      rw [definitionList_empty some] at completed
      cases completed
      exact ⟨_, rfl⟩
  | false =>
      obtain ⟨_, same, -⟩ := definitionList_described some completed
      exact ⟨_, same⟩

theorem relationList_array {document : Json}
    (completed : (relationList id).run session = (.ok document, after)) :
    ∃ relations, document = .array relations := by
  rw [relationList_run, Workflow.relationList] at completed
  split at completed
  · cases completed
    exact ⟨_, rfl⟩
  · split at completed <;>
      · cases completed
        exact ⟨_, rfl⟩

theorem exists_documented {record : WorkflowDefinition}
    (completed : (definition id).run session = (.ok record, after)) :
    ∃ definitions relations,
      Documented session id record definitions relations := by
  obtain ⟨definitions, middle, relations, last, listed, -, related,
    definitionText, relationText⟩ := definition_ok completed
  obtain ⟨definitions, rfl⟩ := definitionList_array listed
  obtain ⟨relations, rfl⟩ := relationList_array related
  refine ⟨definitions, relations, ?_, ⟨middle, listed, ?_⟩, definitionText,
    relationText⟩
  · rw [completed]
  · rw [related]

end Session

/-- One branch of a switch is in the workflow of the switch, the other one is
not. -/
def forkedChoice : Switch := ⟨[⟨⟨0⟩, some "x"⟩, ⟨⟨1⟩, none⟩], by decide⟩

def forking : List Operation :=
  [.openGateway {}, .openWorkflow { name := "first", gateway := ⟨0⟩ },
    .openWorkflow { name := "second", gateway := ⟨0⟩ },
    .build { name := "a", kind := .shell "", workflow := some ⟨0⟩ },
    .build { name := "b", kind := .shell "", workflow := some ⟨1⟩ },
    .build { name := "s", kind := .switch forkedChoice, workflow := some ⟨0⟩ }]

def forked : Session := Operation.performAll { now := "" } forking

def Run.toForked : Run forked :=
  (Run.start "").extend forking (by decide +kernel)

namespace Session

variable {session after : Session} {id : WorkflowId}

/-- A switch may lead to a task that its workflow does not have. -/
theorem switches_elsewhere :
    ¬ ∀ (session : Session) (_ : Run session) (id : WorkflowId)
      (record : WorkflowDefinition) (definitions relations : List Json),
      session.isAlive id →
      Documented session id record definitions relations →
      ∀ definition ∈ definitions,
        definition.field? "taskType" = some (.string TaskKind.switchType) →
        ∀ code ∈ definition.field? "code", ∀ node ∈ definition.nextNodes,
          Json.HasTask definitions node ∧
            Json.HasRelation relations code node := by
  intro complete
  have alive : forked.isAlive ⟨0⟩ = true := by decide +kernel
  have registered : forked.Registered ⟨0⟩ ⟨2⟩ := by decide +kernel
  have kind : (forked.task ⟨2⟩).kind = .switch forkedChoice := by
    decide +kernel
  have succeeds : ((definition ⟨0⟩).run forked).1.isOk = true := by
    decide +kernel
  rcases completed : (definition ⟨0⟩).run forked with ⟨error | record, after⟩
  · rw [completed] at succeeds
    cases succeeds
  · obtain ⟨definitions, relations, documented⟩ := exists_documented completed
    have routes := documented.routes Run.toForked alive registered kind
    obtain ⟨switch, member, coded⟩ := routes.defined
    obtain ⟨type, nodes⟩ := routes.record switch member coded
    have node := (nodes (forked.written ⟨1⟩)).mpr
      ⟨⟨1⟩, by decide +kernel, rfl⟩
    have known := (complete forked Run.toForked ⟨0⟩ record definitions
      relations alive documented switch member type _ coded _ node).1
    rw [routes.known ⟨1⟩ (by decide +kernel)] at known
    revert known
    decide +kernel

/-- A switch leads to all its branches. Those that the workflow has had ever
since they were linked have records there, and relations from the switch. -/
theorem switches (run : Run session) (alive : session.isAlive id)
    {record : WorkflowDefinition}
    (completed : (definition id).run session = (.ok record, after)) :
    ∃ definitions relations,
      Documented session id record definitions relations ∧
        ∀ task choice, session.Registered id task →
          (session.task task).kind = .switch choice →
          Routes session run id task choice definitions relations := by
  obtain ⟨definitions, relations, documented⟩ := exists_documented completed
  refine ⟨definitions, relations, documented, ?_⟩
  intro task choice registered kind
  exact documented.routes run alive registered kind

theorem switches_forked :
    forked.isAlive ⟨0⟩ = true ∧ Run.toForked.Stands ⟨0⟩ ⟨2⟩ ⟨0⟩ ∧
      ∃ record after, (definition ⟨0⟩).run forked = (.ok record, after) ∧
        ∃ definitions relations,
          Documented forked ⟨0⟩ record definitions relations ∧
            Json.HasTask definitions (forked.written ⟨0⟩) ∧
            Json.HasRelation relations (forked.written ⟨2⟩)
              (forked.written ⟨0⟩) ∧
            ¬ Json.HasTask definitions (forked.written ⟨1⟩) := by
  have alive : forked.isAlive ⟨0⟩ = true := by decide +kernel
  have registered : forked.Registered ⟨0⟩ ⟨2⟩ := by decide +kernel
  have kind : (forked.task ⟨2⟩).kind = .switch forkedChoice := by
    decide +kernel
  have coded : (forked.task ⟨2⟩).code ≠ rootCode := by decide +kernel
  have stands : Run.toForked.Stands ⟨0⟩ ⟨2⟩ ⟨0⟩ :=
    .inl ⟨by decide +kernel, registered, by decide +kernel⟩
  have elsewhere :
      (forked.task ⟨1⟩).code ∉ (forked.workflow ⟨0⟩).tasks.keys := by
    decide +kernel
  have succeeds : ((definition ⟨0⟩).run forked).1.isOk = true := by
    decide +kernel
  rcases completed : (definition ⟨0⟩).run forked with ⟨error | record, after⟩
  · rw [completed] at succeeds
    cases succeeds
  · obtain ⟨definitions, relations, documented, routes⟩ :=
      switches Run.toForked alive completed
    have routes := routes ⟨2⟩ forkedChoice registered kind
    obtain ⟨isTask, isRelation⟩ :=
      routes.stands coded ⟨0⟩ (by decide +kernel) stands
    have unknown := (routes.known ⟨1⟩ (by decide +kernel)).not.mpr elsewhere
    exact ⟨alive, stands, record, after, rfl, definitions, relations,
      documented, isTask, isRelation, unknown⟩

end Session

end Orchestration
