import Mathlib.Data.List.Forall2

namespace Orchestration

theorem exists_of_forall₂ {related : α → β → Prop} {values : List α}
    {results : List β} {value : α} (all : List.Forall₂ related values results)
    (member : value ∈ values) : ∃ result ∈ results, related value result := by
  induction all with
  | nil => cases member
  | cons first _ induction =>
      rcases List.mem_cons.mp member with rfl | member
      · exact ⟨_, List.mem_cons_self, first⟩
      · obtain ⟨result, listed, holds⟩ := induction member
        exact ⟨result, List.mem_cons_of_mem _ listed, holds⟩

theorem mapM_eq_some_iff {each : α → Option β} {values : List α}
    {results : List β} :
    values.mapM each = some results ↔
      List.Forall₂ (fun value result => each value = some result) values
        results := by
  constructor
  · intro completed
    induction values generalizing results with
    | nil =>
        cases completed
        exact .nil
    | cons value rest induction =>
        rw [List.mapM_cons] at completed
        obtain ⟨result, first, completed⟩ :=
          Option.bind_eq_some_iff.mp completed
        obtain ⟨others, second, completed⟩ :=
          Option.bind_eq_some_iff.mp completed
        cases completed
        exact .cons first (induction second)
  · intro all
    induction all with
    | nil => rfl
    | cons first _ induction =>
        rw [List.mapM_cons, first, induction]
        rfl

namespace Except

theorem bind_ok {outcome : Except ε α}
    {next : α → Except ε β} {result : β}
    (completed : outcome >>= next = .ok result) :
    ∃ value, outcome = .ok value ∧ next value = .ok result := by
  cases outcome with
  | ok value => exact ⟨value, rfl, completed⟩
  | error error => cases completed

theorem bind_error {outcome : Except ε α} {next : α → Except ε β} {error : ε}
    (failed : outcome >>= next = .error error) :
    outcome = .error error ∨
      ∃ value, outcome = .ok value ∧ next value = .error error := by
  cases outcome with
  | ok value => exact .inr ⟨value, rfl, failed⟩
  | error other =>
      cases failed
      exact .inl rfl

theorem exists_bind_ok_iff {outcome : Except ε α} {next : α → Except ε β} :
    (∃ result, outcome >>= next = .ok result) ↔
      ∃ value, outcome = .ok value ∧ ∃ result, next value = .ok result := by
  constructor
  · rintro ⟨result, completed⟩
    obtain ⟨value, first, second⟩ := bind_ok completed
    exact ⟨value, first, result, second⟩
  · rintro ⟨value, rfl, result, second⟩
    exact ⟨result, second⟩

theorem exists_of_isOk {outcome : Except ε α} (succeeds : outcome.isOk = true) :
    ∃ value, outcome = .ok value := by
  cases outcome with
  | ok value => exact ⟨value, rfl⟩
  | error error => cases succeeds

theorem exists_error_iff {outcome : Except ε α} :
    (∃ error, outcome = .error error) ↔ ¬∃ value, outcome = .ok value := by
  cases outcome with
  | ok value => exact iff_of_false nofun fun none => none ⟨value, rfl⟩
  | error error => exact iff_of_true ⟨error, rfl⟩ nofun

theorem exists_pure_ok (value : α) :
    ∃ result, (pure value : Except ε α) = .ok result :=
  ⟨value, rfl⟩

theorem error_of_map {outcome : Except ε α} {made : α → β} {error : ε}
    (failed : outcome.map made = .error error) : outcome = .error error := by
  cases outcome with
  | ok value => cases failed
  | error other =>
      cases failed
      rfl

theorem mapM_ok_iff {each : α → Except ε β} {values : List α}
    {results : List β} :
    values.mapM each = .ok results ↔
      List.Forall₂ (fun value result => each value = .ok result) values
        results := by
  constructor
  · intro completed
    induction values generalizing results with
    | nil =>
        cases completed
        exact .nil
    | cons value rest induction =>
        rw [List.mapM_cons] at completed
        obtain ⟨result, first, completed⟩ := bind_ok completed
        obtain ⟨others, second, completed⟩ := bind_ok completed
        cases completed
        exact .cons first (induction second)
  · intro all
    induction all with
    | nil => rfl
    | cons first _ induction =>
        rw [List.mapM_cons, first, induction]
        rfl

theorem mapM_error {each : α → Except ε β} {values : List α} {error : ε}
    (failed : values.mapM each = .error error) :
    ∃ value ∈ values, each value = .error error := by
  induction values with
  | nil => cases failed
  | cons value rest induction =>
      rw [List.mapM_cons] at failed
      rcases bind_error failed with first | ⟨result, -, failed⟩
      · exact ⟨value, List.mem_cons_self, first⟩
      · rcases bind_error failed with second | ⟨others, -, failed⟩
        · obtain ⟨other, member, failed⟩ := induction second
          exact ⟨other, List.mem_cons_of_mem _ member, failed⟩
        · cases failed

end Except

end Orchestration
