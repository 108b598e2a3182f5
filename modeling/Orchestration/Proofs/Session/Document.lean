import Orchestration.Proofs.Session.Congruent
import Orchestration.Session.Submission

namespace Orchestration.Session

open Orchestration.Action (Congruent Describes Respects)

namespace Alike

variable {session other : Session}

theorem workerGroup (alike : session.Alike other) (id : TaskId) :
    session.workerGroup id = other.workerGroup id := by
  have group : ∀ id, (session.workflow id).workerGroup =
      (other.workflow id).workerGroup := fun id =>
    (alike.workflow id).field Workflow.workerGroup fun _ _ => rfl
  simp only [Session.workerGroup, alike.task, alike.owner, group]

end Alike

theorem resourceList_describes (id : TaskId) :
    Describes (resourceList id) := by
  refine .read (fun {session other} alike => ?_) fun session =>
    .exchange _ (ResourceReference.resolveAll_looks _ _)
  have user : ∀ id, (session.workflow id).user = (other.workflow id).user :=
    fun id => (alike.workflow id).field Workflow.user fun _ _ => rfl
  simp only [alike.task, alike.owner, user]

theorem standardField_describes (id : TaskId) (field : StandardField) :
    Describes (standardField id field) := by
  refine .read (fun alike => by rw [alike.task]) fun session => ?_
  cases field with
  | localParams => exact .bind (.ofExcept _) fun _ => .pure _
  | resourceList => exact .bind (resourceList_describes id) fun _ => .pure _
  | dependence => exact .pure _
  | waitStartTimeout => exact .pure _
  | conditionResult => exact .pure _

theorem standardFields_describes (id : TaskId) (fields : List StandardField) :
    Describes (standardFields id fields) := by
  induction fields with
  | nil => exact .pure _
  | cons field rest induction =>
      exact .bind (standardField_describes id field) fun _ =>
        .bind induction fun _ => .pure _

theorem requireOwner_bind (id : TaskId) (kind : String)
    (next : Workflow → Action α) :
    requireOwner id kind >>= next =
      get >>= fun session =>
        match session.owner id with
        | some id => next (session.workflow id)
        | none =>
            .ofExcept (.error (.parameter (.workflowRequiredFor kind))) := by
  rw [requireOwner, bind_assoc]
  congr 1
  funext session
  cases session.owner id with
  | some owner => exact pure_bind _ _
  | none => rfl

theorem withOwner_describes (id : TaskId) (kind : String)
    {next : Workflow → Action α}
    (ignores : ∀ workflow relations,
      next { workflow with relations := relations } = next workflow)
    (each : ∀ workflow, Describes (next workflow)) :
    Describes (requireOwner id kind >>= next) := by
  rw [requireOwner_bind]
  refine .read (fun {session other} alike => ?_) fun session => ?_
  · have same : ∀ id, next (session.workflow id) = next (other.workflow id) :=
      fun id => (alike.workflow id).field next ignores
    simp only [alike.owner, same]
  · cases session.owner id with
    | some owner => exact each _
    | none => exact .ofExcept _

theorem kindFields_describes (id : TaskId) : Describes (kindFields id) := by
  refine .read (fun alike => by simp only [alike.task]) fun session => ?_
  cases (session.task id).kind with
  | shell body => exact .pure _
  | python body => exact .pure _
  | http call => exact .ofExcept _
  | sql statement =>
      exact withOwner_describes id _ (fun _ _ => rfl) fun _ =>
        .bind (.ask _ rfl) fun _ => .pure _
  | subWorkflow name =>
      exact withOwner_describes id _ (fun _ _ => rfl) fun _ =>
        .bind (.ask _ rfl) fun _ => .pure _
  | switch choice => exact .pure _
  | custom type parameters => exact .pure _

theorem taskParameters_describes (id : TaskId) :
    Describes (taskParameters id) :=
  .read (fun alike => by rw [alike.task]) fun _ =>
    .bind (standardFields_describes id _) fun _ =>
      .bind (kindFields_describes id) fun _ => .pure _

theorem environmentCode_describes (id : TaskId) :
    Describes (environmentCode id) := by
  refine .read (fun alike => by rw [alike.task]) fun session => ?_
  dsimp only
  split
  · exact .bind (.ask _ rfl) fun _ => .pure _
  · exact .pure _

theorem taskDefinition_describes (id : TaskId) :
    Describes (taskDefinition id) :=
  .bind (taskParameters_describes id) fun _ =>
    .bind (environmentCode_describes id) fun _ =>
      .read (fun alike => by simp only [alike.task, alike.workerGroup])
        fun _ => .pure _

theorem taskDefinitions_describes (ids : List TaskId) :
    Describes (taskDefinitions ids) := by
  induction ids with
  | nil => exact .pure _
  | cons id rest induction =>
      exact .bind (taskDefinition_describes id) fun _ =>
        .bind induction fun _ => .pure _

theorem definitionList_describes (id : WorkflowId) :
    Describes (definitionList id) := by
  refine .read (fun alike => ?_) fun session => ?_
  · simp only [alike.workflow_tasks, alike.taskIds]
  · split
    · exact .pure _
    · exact .bind (taskDefinitions_describes _) fun _ => .pure _

/-- Something was looked up, or roots were put where they are missing. -/
inductive Looked : Session → Session → Prop where
  | queried (queried : Queried before after) : Looked before after
  | rooted (id : WorkflowId) : Looked session (session.synthesizeRoots id)

theorem Alike.looked {session before after : Session}
    (alike : session.Alike before)
    (looked : Relation.ReflTransGen Looked before after) :
    session.Alike after := by
  induction looked with
  | refl => exact alike
  | tail _ step induction =>
      cases step with
      | queried queried => exact induction.queried queried
      | rooted id => exact induction.synthesizeRoots_right id

/-- What does not look at roots is the same after a look. -/
theorem workflow_of_looked (field : Workflow → β)
    (kept : ∀ workflow : Workflow, field workflow.withRoots = field workflow)
    {before after : Session}
    (looked : Relation.ReflTransGen Looked before after) (id : WorkflowId) :
    field (after.workflow id) = field (before.workflow id) := by
  induction looked with
  | refl => rfl
  | tail _ step induction =>
      rw [← induction]
      cases step with
      | queried queried =>
          obtain ⟨_, _, -, rfl⟩ := queried
          rfl
      | rooted other => exact workflow_updateWorkflow_kept field kept other id

theorem gateway_of_looked {before after : Session}
    (looked : Relation.ReflTransGen Looked before after) (id : GatewayId) :
    ∃ lookups : List Gateway.Method, (∀ method ∈ lookups, method.isLookup) ∧
      after.gateway id = (before.gateway id).log lookups := by
  induction looked with
  | refl => exact ⟨[], by simp, (before.gateway id).log_nil.symm⟩
  | tail _ step induction =>
      obtain ⟨lookups, all, logged⟩ := induction
      cases step with
      | queried queried =>
          obtain ⟨asked, methods, more, rfl⟩ := queried
          rcases gateway_updateGateway_cases _ asked (·.log methods) id with
            same | ⟨-, same⟩
          · exact ⟨lookups, all, by rw [same, logged]⟩
          · refine ⟨lookups ++ methods, List.forall_mem_append.mpr ⟨all, more⟩,
              ?_⟩
            rw [same, logged, Gateway.Server.log_log]
      | rooted other => exact ⟨lookups, all, logged⟩

theorem hasObjects_of_looked {before after : Session}
    (looked : Relation.ReflTransGen Looked before after) :
    after.hasGateway = before.hasGateway ∧
      after.hasWorkflow = before.hasWorkflow := by
  induction looked with
  | refl => exact ⟨rfl, rfl⟩
  | tail _ step induction =>
      obtain ⟨gateways, workflows⟩ := induction
      rw [← gateways, ← workflows]
      cases step with
      | queried queried =>
          obtain ⟨asked, methods, -, rfl⟩ := queried
          exact ⟨funext (hasGateway_updateGateway asked _), rfl⟩
      | rooted other =>
          exact ⟨rfl, funext (hasWorkflow_updateWorkflow other _)⟩

theorem definitionList_looked (id : WorkflowId) :
    Respects Looked (definitionList id) :=
  (definitionList_describes id).queries.mono fun _ _ => .queried

theorem relationList_run (id : WorkflowId) (session : Session) :
    (relationList id).run session =
      if (session.workflow id).tasks.isEmpty then
        (.ok Workflow.emptyList, session)
      else
        (.ok ((session.synthesizeRoots id).workflow id).relationList.sorted,
          session.synthesizeRoots id) := by
  rw [relationList, Action.run_get_bind]
  split <;> rfl

theorem relationList_looked (id : WorkflowId) :
    Respects Looked (relationList id) := by
  intro session
  rw [relationList_run]
  split
  · exact .refl
  · exact .single (.rooted id)

theorem definition_looked (id : WorkflowId) :
    Respects Looked (definition id) :=
  .bind (definitionList_looked id) fun _ =>
    .bind (relationList_looked id) fun _ => .bind .get fun _ => .pure _

theorem summary_looked (id : WorkflowId) : Respects Looked (summary id) :=
  .bind (definitionList_looked id) fun _ =>
    .bind (relationList_looked id) fun _ => .bind .get fun _ => .pure _

theorem definition_parts {session after : Session} {id : WorkflowId}
    {record : WorkflowDefinition}
    (completed : (definition id).run session = (.ok record, after)) :
    ∃ definitions middle relations,
      (definitionList id).run session = (.ok definitions, middle) ∧
        (relationList id).run middle = (.ok relations, after) ∧
        record.project = (after.workflow id).project ∧
        record.name = (after.workflow id).name ∧
        record.globalParams = (parameterList (after.workflow id)).compact ∧
        record.taskDefinitionJson = definitions.compact ∧
        record.taskRelationJson = relations.compact := by
  obtain ⟨definitions, middle, listed, completed⟩ := Action.bind_ok completed
  obtain ⟨relations, last, related, completed⟩ := Action.bind_ok completed
  obtain ⟨_, _, got, completed⟩ := Action.bind_ok completed
  obtain ⟨rfl, rfl⟩ := Action.get_ok got
  obtain ⟨same, rfl⟩ := Action.pure_ok completed
  subst same
  exact ⟨definitions, middle, relations, listed, related, rfl, rfl, rfl, rfl,
    rfl⟩

theorem relationList_congruent (id : WorkflowId) :
    Congruent (relationList id) where
  result {session other} alike := by
    rw [relationList_run, relationList_run, alike.workflow_tasks,
      alike.synthesizeRoots]
    split <;> rfl
  after {session other} alike := by
    have left := alike.symm.looked (relationList_looked id session)
    exact left.symm.looked (relationList_looked id other)

theorem definition_congruent (id : WorkflowId) :
    Congruent (definition id) := by
  refine .bind (definitionList_describes id).congruent fun _ =>
    .bind (relationList_congruent id) fun _ =>
      .read (fun alike => ?_) fun _ => .pure _
  obtain ⟨relations, same⟩ := (alike.workflow id).relations_only
  rw [same, alike.now]
  rfl

theorem summary_congruent (id : WorkflowId) : Congruent (summary id) := by
  refine .bind (definitionList_describes id).congruent fun _ =>
    .bind (relationList_congruent id) fun _ =>
      .read (fun alike => ?_) fun _ => .pure _
  obtain ⟨relations, same⟩ := (alike.workflow id).relations_only
  rw [same]
  rfl

end Orchestration.Session
