import Orchestration.Proofs.Session.Dependency

namespace Orchestration

open SortedMap

namespace Session

/-! What tasks remember of links, and the neighbours that they find by it. Tasks
forget nothing, whereas relations go when one of their tasks does. -/

inductive Side where
  | predecessors
  | successors

namespace Side

def codes : Side → Task → SortedSet Int
  | predecessors, task => task.predecessors
  | successors, task => task.successors

def sees (side : Side) (linked : TaskId → TaskId → Prop)
    (task other : TaskId) : Prop :=
  match side with
  | predecessors => linked other task
  | successors => linked task other

end Side

/-- Tasks know the codes of the tasks that they were linked with, and no
others. -/
structure Remembers (session : Session) (linked : TaskId → TaskId → Prop) :
    Prop where
  present : ∀ pre post, linked pre post →
    session.hasTask pre ∧ session.hasTask post
  codes : ∀ (side : Side) task code,
    code ∈ (side.codes (session.task task)).toList ↔
      ∃ other, side.sees linked task other ∧ (session.task other).code = code

variable {session : Session} {linked : TaskId → TaskId → Prop}

namespace Remembers

theorem sees_present (remembers : Remembers session linked) {side : Side}
    {task other : TaskId} (sees : side.sees linked task other) :
    session.hasTask task ∧ session.hasTask other := by
  cases side with
  | predecessors => exact (remembers.present other task sees).symm
  | successors => exact remembers.present task other sees

theorem steady {before after : Session} (remembers : Remembers before linked)
    (steady : Steady before after) : Remembers after linked where
  present pre post link := by
    rw [steady.hasTask, steady.hasTask]
    exact remembers.present pre post link
  codes side task code := by
    rw [steady.field side.codes fun _ => by cases side <;> rfl]
    simp only [steady.field Task.code fun _ => rfl]
    exact remembers.codes side task code

theorem newTask (remembers : Remembers session linked) {task : Task}
    (noPredecessors : task.predecessors = .empty)
    (noSuccessors : task.successors = .empty) :
    Remembers (session.newTask task).2 linked := by
  have old : ∀ other, session.hasTask other →
      (session.newTask task).2.task other = session.task other := by
    intro other present
    apply task_newTask_other
    intro equality
    subst equality
    simp at present
  refine ⟨?_, ?_⟩
  · intro pre post link
    obtain ⟨first, second⟩ := remembers.present pre post link
    exact ⟨hasTask_newTask_iff.mpr (.inl first),
      hasTask_newTask_iff.mpr (.inl second)⟩
  · intro side other code
    by_cases new : other = (session.newTask task).1
    · subst new
      have nothing : side.codes task = .empty := by
        cases side with
        | predecessors => exact noPredecessors
        | successors => exact noSuccessors
      rw [task_newTask_self, nothing]
      constructor
      · intro member
        cases member
      · intro known
        obtain ⟨other, sees, -⟩ := known
        have present := (remembers.sees_present sees).1
        simp at present
    · rw [task_newTask_other new, remembers.codes]
      refine exists_congr fun another => and_congr_right fun sees => ?_
      rw [old another (remembers.sees_present sees).2]

theorem addTask (remembers : Remembers session linked) (id : WorkflowId)
    (task : TaskId) : Remembers (session.addTask id task).2 linked where
  present pre post link := by
    rw [hasTask_addTask, hasTask_addTask]
    exact remembers.present pre post link
  codes side other code := by
    rw [task_addTask_kept side.codes fun _ _ => by cases side <;> rfl]
    simp only [task_addTask_kept Task.code fun _ _ => rfl]
    exact remembers.codes side other code

theorem calm {before after : Session} (remembers : Remembers before linked)
    (calm : Calm before after) : Remembers after linked := by
  cases calm with
  | steady steady => exact remembers.steady steady
  | openWorkflow => exact ⟨remembers.present, remembers.codes⟩
  | enlist _ _ _ noPredecessors noSuccessors =>
      exact (remembers.newTask noPredecessors noSuccessors).addTask _ _

theorem calms {before after : Session} (remembers : Remembers before linked)
    (calm : Relation.ReflTransGen Calm before after) :
    Remembers after linked := by
  induction calm with
  | refl => exact remembers
  | tail _ step induction => exact induction.calm step

theorem link (remembers : Remembers session linked) {first second : TaskId}
    (firstPresent : session.hasTask first)
    (secondPresent : session.hasTask second) :
    Remembers (session.link first first second) fun pre post =>
      (pre, post) = (first, second) ∨ linked pre post where
  present pre post := by
    rw [hasTask_link, hasTask_link]
    intro either
    rcases either with same | link
    · cases same
      exact ⟨firstPresent, secondPresent⟩
    · exact remembers.present pre post link
  codes side task code := by
    simp only [code_link]
    have before := remembers.codes side task code
    cases side with
    | predecessors =>
        simp only [Side.codes, Side.sees] at before ⊢
        rw [mem_predecessors_link secondPresent, before]
        grind
    | successors =>
        simp only [Side.codes, Side.sees] at before ⊢
        rw [mem_successors_link firstPresent, before]
        grind

theorem linkAll (remembers : Remembers session linked)
    {pairs : List (TaskId × TaskId)}
    (present : ∀ pair ∈ pairs,
      session.hasTask pair.1 ∧ session.hasTask pair.2) :
    Remembers (session.linkAll pairs) fun pre post =>
      (pre, post) ∈ pairs ∨ linked pre post := by
  induction pairs generalizing session linked with
  | nil => simpa using remembers
  | cons pair rest induction =>
      obtain ⟨first, second⟩ := pair
      obtain ⟨firstPresent, secondPresent⟩ :=
        present (first, second) List.mem_cons_self
      have linked := induction (remembers.link firstPresent secondPresent)
        fun pair member => by
          rw [hasTask_link, hasTask_link]
          exact present pair (List.mem_cons_of_mem _ member)
      simpa [or_assoc, or_left_comm] using linked

theorem perform (remembers : Remembers session linked)
    {operation : Operation} (possible : operation.isPossible session = true) :
    Remembers (operation.perform session) fun pre post =>
      (pre, post) ∈ operation.links session ∨ linked pre post := by
  rcases Operation.perform_cases possible with
    ⟨id, task, rfl⟩ | ⟨middle, calm, performed, present⟩
  · simpa [Operation.links, Operation.perform] using remembers.addTask id task
  · rw [performed]
    exact (remembers.calms calm).linkAll present

end Remembers

theorem remembers_linked (run : Run session) :
    Remembers session fun pre post => run.Linked pre post := by
  induction run with
  | start now =>
      refine ⟨nofun, fun side task code => ?_⟩
      constructor
      · intro member
        cases side <;> cases member
      · intro known
        obtain ⟨other, sees, -⟩ := known
        cases side <;> cases sees
  | step run operation possible induction => exact induction.perform possible

theorem mem_found_iff (consistent : Consistent session) {id : WorkflowId}
    {task other : TaskId} (alive : session.isAlive id)
    (registered : session.Registered id task)
    (otherRegistered : session.Registered id other) (codes : SortedSet Int) :
    other ∈ session.found task codes ↔
      (session.task other).code ∈ codes.toList := by
  have owned := (consistent.owner_iff_registered alive).mpr registered
  rw [found, owned, List.mem_filterMap]
  constructor
  · intro found
    obtain ⟨code, member, listed⟩ := found
    have same := (consistent.listed id code other alive listed).1
    rwa [same]
  · intro member
    exact ⟨_, member, otherRegistered⟩

def Related (session : Session) (id : WorkflowId) (pre post : TaskId) : Prop :=
  ⟨(session.task pre).code, (session.task post).code⟩ ∈
    (session.workflow id).relations.keys

instance (session : Session) (id : WorkflowId) (pre post : TaskId) :
    Decidable (session.Related id pre post) :=
  inferInstanceAs (Decidable (_ ∈ _))

theorem Tracks.related_iff {id : WorkflowId}
    {standing : TaskId → TaskId → Prop} (tracks : Tracks session id standing)
    (alive : session.isAlive id) {pre post : TaskId}
    (first : session.Registered id pre) (second : session.Registered id post)
    (coded : (session.task pre).code ≠ rootCode) :
    session.Related id pre post ↔ standing pre post := by
  constructor
  · exact tracks.stands_of_mem alive first second coded
  · intro stands
    have member : session.relationBetween pre post ∈
        (session.workflow id).relations.toList :=
      (tracks.relations _ alive coded).mpr ⟨pre, post, stands, rfl⟩
    exact mem_keys_iff.mpr ⟨_, RelationSet.mem_toList_iff.mp member⟩

theorem linked_of_stands {run : Run session} {id : WorkflowId}
    {pre post : TaskId} (stands : run.Stands id pre post) :
    run.Linked pre post := by
  induction run with
  | start now => cases stands
  | step run operation possible induction =>
      rcases stands with ⟨made, -⟩ | ⟨stood, -⟩
      · exact .inl made
      · exact .inr (induction stood)

/-- Two tasks of a workflow that know each other need not be related: they may
have been linked when one of them was elsewhere. -/
theorem neighbours_without_relation :
    ¬ ∀ (session : Session) (_ : Run session) (id : WorkflowId)
      (pre post : TaskId), session.isAlive id →
      session.Registered id pre → session.Registered id post →
        (post ∈ session.successors pre ↔ pre ∈ session.predecessors post) ∧
          (pre ∈ session.predecessors post ↔
            session.Related id pre post) := by
  intro agree
  have atCrossed := agree crossed Run.toCrossed ⟨0⟩ ⟨0⟩ ⟨1⟩
    (by decide +kernel) (by decide +kernel) (by decide +kernel)
  revert atCrossed
  decide +kernel

section Views

variable (run : Run session) {id : WorkflowId} {pre post : TaskId}
  (alive : session.isAlive id) (first : session.Registered id pre)
  (second : session.Registered id post)
include alive first second

theorem mem_successors_iff :
    post ∈ session.successors pre ↔
      ∃ other, run.Linked pre other ∧
        (session.task other).code = (session.task post).code := by
  rw [successors, mem_found_iff run.consistent alive first second]
  exact (remembers_linked run).codes .successors pre _

theorem mem_predecessors_iff :
    pre ∈ session.predecessors post ↔
      ∃ other, run.Linked other post ∧
        (session.task other).code = (session.task pre).code := by
  rw [predecessors, mem_found_iff run.consistent alive second first]
  exact (remembers_linked run).codes .predecessors post _

/-- Neighbours go by all links of the run, relations only by links that stand.
Where these are the same, all views of two tasks agree. -/
theorem neighbours :
    (post ∈ session.successors pre ↔
        ∃ other, run.Linked pre other ∧
          (session.task other).code = (session.task post).code) ∧
      (pre ∈ session.predecessors post ↔
        ∃ other, run.Linked other post ∧
          (session.task other).code = (session.task pre).code) ∧
      ((∀ other, session.hasTask other →
          ((session.task other).code = (session.task pre).code →
            other = pre) ∧
          ((session.task other).code = (session.task post).code →
            other = post)) →
        (post ∈ session.successors pre ↔
          pre ∈ session.predecessors post)) ∧
      ((session.task pre).code ≠ rootCode →
        (session.Related id pre post ↔ run.Stands id pre post)) ∧
      (run.Stands id pre post →
        post ∈ session.successors pre ∧ pre ∈ session.predecessors post) ∧
      ((∀ other another, run.Linked other another →
          (session.task other).code = (session.task pre).code →
          (session.task another).code = (session.task post).code →
          run.Stands id other another) →
        (post ∈ session.successors pre ↔ run.Stands id pre post) ∧
          (pre ∈ session.predecessors post ↔ run.Stands id pre post)) := by
  have remembers := remembers_linked run
  have tracks := tracks_stands run id
  rw [mem_successors_iff run alive first second,
    mem_predecessors_iff run alive first second]
  have known : run.Stands id pre post →
      (∃ other, run.Linked pre other ∧
        (session.task other).code = (session.task post).code) ∧
      ∃ other, run.Linked other post ∧
        (session.task other).code = (session.task pre).code := by
    intro stands
    have linked := linked_of_stands stands
    exact ⟨⟨post, linked, rfl⟩, ⟨pre, linked, rfl⟩⟩
  refine ⟨Iff.rfl, Iff.rfl, ?_, tracks.related_iff alive first second, known,
    ?_⟩
  · intro distinct
    constructor
    · intro known
      obtain ⟨other, linked, same⟩ := known
      have present := (remembers.present pre other linked).2
      rw [(distinct other present).2 same] at linked
      exact ⟨pre, linked, rfl⟩
    · intro known
      obtain ⟨other, linked, same⟩ := known
      have present := (remembers.present other post linked).1
      rw [(distinct other present).1 same] at linked
      exact ⟨post, linked, rfl⟩
  · intro standing
    refine ⟨⟨?_, fun stands => (known stands).1⟩, ?_,
      fun stands => (known stands).2⟩
    · intro known
      obtain ⟨other, linked, same⟩ := known
      have stands := standing pre other linked rfl same
      have registered := (tracks.registered pre other alive stands).2
      rwa [registered.eq_of_code second same] at stands
    · intro known
      obtain ⟨other, linked, same⟩ := known
      have stands := standing other post linked same rfl
      have registered := (tracks.registered other post alive stands).1
      rwa [registered.eq_of_code first same] at stands

end Views

theorem neighbours_crossed :
    crossed.isAlive ⟨0⟩ = true ∧ crossed.Registered ⟨0⟩ ⟨0⟩ ∧
      crossed.Registered ⟨0⟩ ⟨1⟩ ∧ ⟨1⟩ ∈ crossed.successors ⟨0⟩ ∧
      ¬ Run.toCrossed.Stands ⟨0⟩ ⟨0⟩ ⟨1⟩ := by
  have alive : crossed.isAlive ⟨0⟩ = true := by decide +kernel
  have first : crossed.Registered ⟨0⟩ ⟨0⟩ := by decide +kernel
  have second : crossed.Registered ⟨0⟩ ⟨1⟩ := by decide +kernel
  have views := neighbours Run.toCrossed alive first second
  have coded : (crossed.task ⟨0⟩).code ≠ rootCode := by decide +kernel
  have unrelated : ¬ crossed.Related ⟨0⟩ ⟨0⟩ ⟨1⟩ := by decide +kernel
  refine ⟨alive, first, second, by decide +kernel, ?_⟩
  exact (not_congr (views.2.2.2.1 coded)).mp unrelated

end Session

end Orchestration
