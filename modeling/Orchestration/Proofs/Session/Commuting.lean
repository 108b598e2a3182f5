import Mathlib.Logic.Function.Conjugate
import Orchestration.Proofs.Session.Dependency

namespace Orchestration

open Function (Commute)

/-! Links in any order. What a link does is written down as seen from one
session, so that links become functions that commute. -/

/-- Two functions that count once count once together. -/
private theorem Commute.comp_twice {first second : α → α}
    (commute : Commute first second)
    (firstTwice : ∀ value, first (first value) = first value)
    (secondTwice : ∀ value, second (second value) = second value) (value : α) :
    (first ∘ second) ((first ∘ second) value) = (first ∘ second) value := by
  simp only [Function.comp_apply]
  rw [← commute, firstTwice, secondTwice]

namespace Task

def withPredecessor (code : Int) (task : Task) : Task :=
  { task with predecessors := SortedSet.add task.predecessors code }

def withSuccessor (code : Int) (task : Task) : Task :=
  { task with successors := SortedSet.add task.successors code }

theorem withPredecessor_commute (code other : Int) :
    Commute (withPredecessor code) (withPredecessor other) := by
  intro task
  simp only [withPredecessor, SortedSet.add]
  rw [SortedMap.insertNew_comm _ fun _ => rfl]

theorem withSuccessor_commute (code other : Int) :
    Commute (withSuccessor code) (withSuccessor other) := by
  intro task
  simp only [withSuccessor, SortedSet.add]
  rw [SortedMap.insertNew_comm _ fun _ => rfl]

theorem withPredecessor_twice (code : Int) :
    withPredecessor code ∘ withPredecessor code = withPredecessor code := by
  funext task
  simp [withPredecessor, SortedSet.add, SortedMap.insertNew_twice]

theorem withSuccessor_twice (code : Int) :
    withSuccessor code ∘ withSuccessor code = withSuccessor code := by
  funext task
  simp [withSuccessor, SortedSet.add, SortedMap.insertNew_twice]

end Task

namespace RelationSet

theorem add_comm (set : RelationSet) {relation other : Relation}
    (agree : relation.endpoints = other.endpoints → relation = other) :
    (set.add relation).add other = (set.add other).add relation := by
  apply SortedMap.insertNew_comm
  exact fun same => congrArg Relation.name (agree same)

end RelationSet

namespace Session

theorem updateTask_commute (id other : TaskId) {first second : Task → Task}
    (commute : Commute first second) :
    Commute (fun session : Session => session.updateTask id first)
      fun session => session.updateTask other second := by
  intro session
  simp only [updateTask, mk.injEq, true_and, and_true]
  by_cases same : id = other
  · subst same
    rw [List.modify_modify_eq, List.modify_modify_eq, commute.comp_eq]
  · apply List.modify_modify_ne
    intro index
    exact same (congrArg TaskId.mk index.symm)

theorem updateTask_twice (session : Session) (id : TaskId)
    {update : Task → Task} (twice : update ∘ update = update) :
    (session.updateTask id update).updateTask id update =
      session.updateTask id update := by
  simp only [updateTask, List.modify_modify_eq, twice]

theorem record_commute (id other : WorkflowId) {relation another : Relation}
    (agree : id = other → relation.endpoints = another.endpoints →
      relation = another) :
    Commute (fun session : Session => session.record id relation)
      fun session => session.record other another := by
  intro session
  simp only [record, updateWorkflow, mk.injEq, true_and, and_true]
  by_cases same : id = other
  · subst same
    rw [List.modify_modify_eq, List.modify_modify_eq]
    congr 1
    funext workflow
    simp only [Function.comp_apply, RelationSet.add_comm _ (agree rfl)]
  · apply List.modify_modify_ne
    intro index
    exact same (congrArg WorkflowId.mk index.symm)

theorem record_twice (session : Session) (id : WorkflowId)
    (relation : Relation) :
    (session.record id relation).record id relation =
      session.record id relation := by
  simp only [record, updateWorkflow, List.modify_modify_eq]
  congr 2
  funext workflow
  simp only [Function.comp_apply, RelationSet.add, SortedMap.insertNew_twice]

def noting (view : Session) (pair : TaskId × TaskId) : Session → Session :=
  (fun session => session.updateTask pair.2
      (Task.withPredecessor (view.task pair.1).code)) ∘
    fun session => session.updateTask pair.1
      (Task.withSuccessor (view.task pair.2).code)

def relating (view : Session) (pair : TaskId × TaskId) (session : Session) :
    Session :=
  match view.owner pair.1 with
  | some id =>
      if view.owner pair.2 = some id then
        session.record id (view.relationBetween pair.1 pair.2)
      else session
  | none => session

def linking (view : Session) (pair : TaskId × TaskId) : Session → Session :=
  view.relating pair ∘ view.noting pair

theorem relating_cases (view : Session) (pair : TaskId × TaskId) :
    (∃ owner, view.owner pair.1 = some owner ∧
      view.owner pair.2 = some owner ∧
      view.relating pair = fun session =>
        session.record owner (view.relationBetween pair.1 pair.2)) ∨
    view.relating pair = id := by
  cases first : view.owner pair.1 with
  | none =>
      right
      funext session
      simp only [relating, first]
      rfl
  | some owner =>
      by_cases second : view.owner pair.2 = some owner
      · left
        refine ⟨owner, rfl, second, ?_⟩
        funext session
        simp only [relating, first, if_pos second]
      · right
        funext session
        simp only [relating, first, if_neg second]
        rfl

theorem link_eq_linking (session : Session) (pre post : TaskId) :
    session.link pre pre post = session.linking (pre, post) session := by
  rcases link_cases session pre post with
    ⟨owner, first, second, same⟩ | ⟨parted, same⟩
  · rw [same]
    simp only [linking, Function.comp_apply, relating, first, second, if_true]
    rfl
  · rw [same]
    rcases relating_cases session (pre, post) with
      ⟨owner, first, second, -⟩ | nothing
    · exact absurd ⟨first, second⟩ (parted owner)
    · simp only [linking, Function.comp_apply, nothing]
      rfl

@[simp] theorem owner_link (session : Session) (pre post task : TaskId) :
    (session.link pre pre post).owner task = session.owner task := by
  rw [owner, owner, task_link_kept Task.workflow fun _ _ _ => rfl]
  congr 1
  funext id
  exact isAlive_link session pre post id

theorem linking_link (session : Session) (pre post : TaskId) :
    (session.link pre pre post).linking = session.linking := by
  funext pair other
  simp only [linking, Function.comp_apply, relating, noting, owner_link,
    code_link, relationBetween_link]

theorem linkAll_eq (session : Session) (pairs : List (TaskId × TaskId)) :
    session.linkAll pairs =
      pairs.foldl (fun other pair => session.linking pair other) session := by
  suffices ∀ other : Session, other.linking = session.linking →
      other.linkAll pairs =
        pairs.foldl (fun other pair => session.linking pair other) other from
    this session rfl
  induction pairs with
  | nil => exact fun _ _ => rfl
  | cons pair rest induction =>
      intro other same
      rw [List.foldl_cons, linkAll_cons, induction, link_eq_linking, same]
      rw [linking_link, same]

theorem noting_commute (view : Session) (first second : TaskId × TaskId) :
    Commute (view.noting first) (view.noting second) := by
  have apart : ∀ code other,
      Commute (Task.withSuccessor code) (Task.withPredecessor other) :=
    fun _ _ _ => rfl
  refine Commute.comp_left (.comp_right ?_ ?_) (.comp_right ?_ ?_)
  · exact updateTask_commute _ _ (Task.withPredecessor_commute _ _)
  · exact updateTask_commute _ _ (apart _ _).symm
  · exact updateTask_commute _ _ (apart _ _)
  · exact updateTask_commute _ _ (Task.withSuccessor_commute _ _)

theorem noting_twice (view : Session) (pair : TaskId × TaskId)
    (session : Session) :
    view.noting pair (view.noting pair session) = view.noting pair session := by
  have apart : Commute (Task.withPredecessor (view.task pair.1).code)
      (Task.withSuccessor (view.task pair.2).code) := fun _ => rfl
  refine Commute.comp_twice (updateTask_commute _ _ apart) ?_ ?_ session
  · exact fun _ => updateTask_twice _ _ (Task.withPredecessor_twice _)
  · exact fun _ => updateTask_twice _ _ (Task.withSuccessor_twice _)

theorem relating_commute_noting (view : Session)
    (first second : TaskId × TaskId) :
    Commute (view.relating first) (view.noting second) := by
  rcases relating_cases view first with ⟨owner, -, -, related⟩ | nothing
  · rw [related]
    exact fun _ => rfl
  · rw [nothing]
    exact .id_left

theorem relating_twice (view : Session) (pair : TaskId × TaskId)
    (session : Session) :
    view.relating pair (view.relating pair session) =
      view.relating pair session := by
  rcases relating_cases view pair with ⟨owner, -, -, related⟩ | nothing
  · rw [related]
    exact record_twice session owner _
  · rw [nothing]
    rfl

/-- Two links of tasks with the same codes in one workflow are the same link. -/
theorem Consistent.relating_commute {view : Session}
    (consistent : Consistent view) (first second : TaskId × TaskId) :
    Commute (view.relating first) (view.relating second) := by
  rcases relating_cases view first with ⟨owner, pre, post, related⟩ | nothing
  · rcases relating_cases view second with
      ⟨other, otherPre, otherPost, otherRelated⟩ | otherNothing
    · rw [related, otherRelated]
      apply record_commute
      intro sameOwner sameEnds
      subst sameOwner
      have alive := (owner_eq_some_iff.mp pre).2
      have registered : ∀ task, view.owner task = some owner →
          view.Registered owner task := fun _ =>
        (consistent.owner_iff_registered alive).mp
      have codes := Endpoints.mk.inj sameEnds
      have preSame := (registered _ pre).eq_of_code (registered _ otherPre)
        codes.1
      have postSame := (registered _ post).eq_of_code (registered _ otherPost)
        codes.2
      rw [preSame, postSame]
    · rw [otherNothing]
      exact .id_right
  · rw [nothing]
    exact .id_left

theorem Consistent.linking_commute {view : Session}
    (consistent : Consistent view) (first second : TaskId × TaskId) :
    Commute (view.linking first) (view.linking second) := by
  refine Commute.comp_left (.comp_right ?_ ?_) (.comp_right ?_ ?_)
  · exact consistent.relating_commute first second
  · exact relating_commute_noting view first second
  · exact (relating_commute_noting view second first).symm
  · exact noting_commute view first second

theorem linking_twice (view : Session) (pair : TaskId × TaskId)
    (session : Session) :
    view.linking pair (view.linking pair session) =
      view.linking pair session :=
  Commute.comp_twice (relating_commute_noting view pair pair)
    (relating_twice view pair) (noting_twice view pair) session

section Foldl

variable {step : β → α → β}
  (commute : ∀ state first second,
    step (step state first) second = step (step state second) first)
  (twice : ∀ state value, step (step state value) value = step state value)
include commute twice

private theorem foldl_absorb {value : α} {values : List α}
    (member : value ∈ values) (state : β) :
    values.foldl step (step state value) = values.foldl step state := by
  induction values generalizing state with
  | nil => cases member
  | cons head rest induction =>
      rw [List.foldl_cons, List.foldl_cons]
      rcases List.mem_cons.mp member with rfl | member
      · rw [twice]
      · rw [commute, induction member]

private theorem foldl_absorb_all {values others : List α}
    (covered : ∀ value ∈ values, value ∈ others) (state : β) :
    others.foldl step (values.foldl step state) = others.foldl step state := by
  induction values generalizing state with
  | nil => rfl
  | cons head rest induction =>
      obtain ⟨first, remaining⟩ := List.forall_mem_cons.mp covered
      rw [List.foldl_cons, induction remaining,
        foldl_absorb commute twice first]

/-- Only what is in the list counts. -/
private theorem foldl_eq_of_mem_iff {values others : List α}
    (same : ∀ value, value ∈ values ↔ value ∈ others) (state : β) :
    values.foldl step state = others.foldl step state := by
  have swapped : (others ++ values).Perm (values ++ others) :=
    List.perm_append_comm
  have exchanged := swapped.foldl_eq'
    (fun first _ second _ state => commute state first second) state
  rw [List.foldl_append, List.foldl_append,
    foldl_absorb_all commute twice fun value => (same value).mpr,
    foldl_absorb_all commute twice fun value => (same value).mp] at exchanged
  exact exchanged

end Foldl

theorem Consistent.linkAll_congr {session : Session}
    (consistent : Consistent session) {pairs others : List (TaskId × TaskId)}
    (same : ∀ pair, pair ∈ pairs ↔ pair ∈ others) :
    session.linkAll pairs = session.linkAll others := by
  rw [linkAll_eq, linkAll_eq]
  apply foldl_eq_of_mem_iff _ _ same
  · intro other first second
    exact consistent.linking_commute second first other
  · intro other pair
    exact linking_twice session pair other

end Session

namespace Operation

def isLinking : Operation → Bool
  | precedes _ _ | follows _ _ | arrow _ _ _ => true
  | _ => false

theorem perform_linking (session : Session) {operation : Operation}
    (linking : operation.isLinking) :
    operation.perform session =
      session.linkAll (operation.links session) := by
  cases operation with
  | precedes task targets => exact session.precedes_eq task targets
  | follows task targets => exact session.follows_eq task targets
  | arrow direction left right => exact session.arrow_eq direction left right
  | _ => cases linking

theorem links_linking (session other : Session) {operation : Operation}
    (linking : operation.isLinking) :
    operation.links session = operation.links other := by
  cases operation with
  | precedes task targets => rfl
  | follows task targets => rfl
  | arrow direction left right => rfl
  | _ => cases linking

theorem performAll_linking (session : Session) {operations : List Operation}
    (linking : ∀ operation ∈ operations, operation.isLinking) :
    performAll session operations =
      session.linkAll (operations.flatMap (·.links session)) := by
  induction operations generalizing session with
  | nil => rfl
  | cons operation rest induction =>
      obtain ⟨first, remaining⟩ := List.forall_mem_cons.mp linking
      have links : rest.flatMap
          (·.links (session.linkAll (operation.links session))) =
            rest.flatMap (·.links session) :=
        List.flatMap_congr fun other member =>
          links_linking _ _ (remaining other member)
      rw [performAll, perform_linking session first, induction _ remaining,
        links, List.flatMap_cons, Session.linkAll, Session.linkAll,
        Session.linkAll, List.foldl_append]

end Operation

namespace Session

/-- Operations that make the same links lead to the same session, in whatever
order they make them, how often, and in which form. -/
theorem links_unordered (run : Run session) :
    (∀ first second : List Operation,
      (∀ operation ∈ first, operation.isLinking) →
      (∀ operation ∈ second, operation.isLinking) →
      (∀ pair, pair ∈ first.flatMap (·.links session) ↔
        pair ∈ second.flatMap (·.links session)) →
      Operation.performAll session first =
        Operation.performAll session second) ∧
      (∀ pre post, session.precedes pre [post] = session.follows post [pre]) ∧
      ∀ operation : Operation, operation.isLinking →
        operation.perform session =
          Operation.performAll session
            ((operation.links session).map fun pair =>
              .precedes pair.1 [pair.2]) := by
  refine ⟨?_, ?_, ?_⟩
  · intro first second firstLinks secondLinks same
    rw [Operation.performAll_linking session firstLinks,
      Operation.performAll_linking session secondLinks]
    exact run.consistent.linkAll_congr same
  · intro pre post
    rw [precedes_eq, follows_eq]
    rfl
  · intro operation linking
    rw [Operation.perform_linking session linking,
      Operation.performAll_linking]
    · congr 1
      simp [Operation.links, List.flatMap_map]
    · rw [List.forall_mem_map]
      exact fun _ _ => rfl

theorem links_unordered_crossed :
    let first : List Operation :=
      [.arrow .right (.many [⟨0⟩, ⟨1⟩]) (.one ⟨1⟩), .precedes ⟨0⟩ [⟨1⟩]]
    let second : List Operation :=
      [.follows ⟨1⟩ [⟨1⟩], .arrow .left (.one ⟨1⟩) (.one ⟨0⟩)]
    Operation.performAll crossed first = Operation.performAll crossed second ∧
      (((Operation.performAll crossed first).workflow ⟨0⟩).relations.toList =
        [⟨1000, 1001, "a -> b"⟩, ⟨1001, 1001, "b -> b"⟩]) := by
  intro first second
  refine ⟨(links_unordered Run.toCrossed).1 first second ?_ ?_ ?_, ?_⟩
  · decide
  · decide
  · intro pair
    simp [first, second, Operation.links, Arrow.links, Operand.pairs,
      Operand.tasks]
    tauto
  · decide +kernel

end Session

end Orchestration
