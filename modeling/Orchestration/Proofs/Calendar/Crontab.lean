import Orchestration.Proofs.Except
import Orchestration.Proofs.Text.Field
import Orchestration.Workflow.Draft

namespace Orchestration

open Text

/-! Which crontabs are accepted, by themselves and in drafts of workflows. What
counts is the spaces in them, and not their fields. -/

namespace Schedule

variable {text crontab : String}

theorem readCrontab_ok_iff :
    readCrontab text = .ok crontab ↔
      ((trim text.toList).splitOn ' ').length = crontabFields ∧
        crontab = trimmed text := by
  rw [length_splitOn, readCrontab, trimmed, String.toList_ofList]
  split
  next counted => simp [counted, eq_comm]
  next miscounted => simp [miscounted]

theorem exists_readCrontab_iff :
    (∃ crontab, readCrontab text = .ok crontab) ↔
      ((trim text.toList).splitOn ' ').length = crontabFields := by
  simp [readCrontab_ok_iff]

theorem exists_readCrontab_iff_fields (spaced : SinglySpaced text.toList) :
    (∃ crontab, readCrontab text = .ok crontab) ↔
      (fields text.toList).length = crontabFields := by
  rw [exists_readCrontab_iff]
  by_cases something : fields text.toList = []
  · rw [spaced, something]
    decide
  · rw [spaced.splitOn something]

end Schedule

namespace WorkflowDraft

variable {draft : WorkflowDraft} {text : String} {workflow : Workflow}

theorem exists_build_iff :
    (∃ workflow, draft.build = .ok workflow) ↔
      (∃ type, WarningType.read
        (draft.warningType.getD draft.defaults.warningType) = .ok type) ∧
      (∃ type, ExecutionType.read
        (draft.executionType.getD draft.defaults.executionType) = .ok type) ∧
      (∃ state, ReleaseState.read
        (draft.releaseState.getD draft.defaults.releaseState) = .ok state) ∧
      (∃ minutes, WorkflowTimeout.read draft.timeout = .ok minutes) ∧
      (∃ crontab, draft.crontab = .ok crontab) ∧
      (∃ start, readOptional Moment.read draft.start = .ok start) ∧
      ∃ finish, readOptional Moment.read draft.finish = .ok finish := by
  simp only [build, Except.exists_bind_ok_iff, Except.exists_pure_ok, and_true,
    exists_and_right]

theorem exists_build_iff_unscheduled :
    (∃ workflow, draft.build = .ok workflow) ↔
      (∃ crontab, draft.crontab = .ok crontab) ∧
        ∃ workflow, { draft with schedule := none }.build = .ok workflow := by
  have blank : ∃ crontab, { draft with schedule := none }.crontab =
      .ok crontab := ⟨none, rfl⟩
  simp only [exists_build_iff, blank, true_and]
  constructor
  · rintro ⟨warning, execution, release, timeout, crontab, times⟩
    exact ⟨crontab, warning, execution, release, timeout, times⟩
  · rintro ⟨crontab, warning, execution, release, timeout, times⟩
    exact ⟨warning, execution, release, timeout, crontab, times⟩

theorem crontab_of_scheduled (scheduled : draft.schedule = some text)
    (shown : trim text.toList ≠ []) :
    draft.crontab = (Schedule.readCrontab text).map some := by
  rw [crontab, scheduled, Option.filter_some]
  simp [shown, readOptional]

theorem exists_crontab_iff (scheduled : draft.schedule = some text)
    (shown : trim text.toList ≠ []) :
    (∃ crontab, draft.crontab = .ok crontab) ↔
      ∃ crontab, Schedule.readCrontab text = .ok crontab := by
  rw [crontab_of_scheduled scheduled shown]
  cases Schedule.readCrontab text <;> simp [Except.map]

theorem schedule_of_build (scheduled : draft.schedule = some text)
    (shown : trim text.toList ≠ []) (built : draft.build = .ok workflow) :
    ∃ schedule, workflow.schedule = some schedule ∧
      schedule.crontab = trimmed text := by
  rw [build] at built
  iterate 4
    obtain ⟨_, -, built⟩ := Except.bind_ok built
  obtain ⟨crontab, accepted, built⟩ := Except.bind_ok built
  iterate 2
    obtain ⟨_, -, built⟩ := Except.bind_ok built
  cases built
  rw [crontab_of_scheduled scheduled shown] at accepted
  cases read : Schedule.readCrontab text with
  | error error =>
      rw [read] at accepted
      cases accepted
  | ok taken =>
      rw [read] at accepted
      cases accepted
      exact ⟨_, rfl, (Schedule.readCrontab_ok_iff.mp read).2⟩

end WorkflowDraft

namespace Schedule

/-- A crontab is accepted, and told without the blanks around it, if it has
seven pieces when it is cut at every space. These are its fields only where
single spaces divide them. A draft with a crontab that is not blank can be built
if the crontab is accepted and the draft could be built without it. -/
theorem acceptance (text : String) :
    let pieces := (trim text.toList).splitOn ' '
    (∀ crontab, readCrontab text = .ok crontab ↔
        pieces.length = crontabFields ∧ crontab = trimmed text) ∧
      (SinglySpaced text.toList →
        ((∃ crontab, readCrontab text = .ok crontab) ↔
          (fields text.toList).length = crontabFields)) ∧
      ∀ draft : WorkflowDraft, draft.schedule = some text →
        trim text.toList ≠ [] →
          ((∃ workflow, draft.build = .ok workflow) ↔
            pieces.length = crontabFields ∧
              ∃ workflow, { draft with schedule := none }.build =
                .ok workflow) ∧
            ∀ workflow, draft.build = .ok workflow →
              ∃ schedule, workflow.schedule = some schedule ∧
                schedule.crontab = trimmed text := by
  refine ⟨fun crontab => readCrontab_ok_iff, exists_readCrontab_iff_fields,
    fun draft scheduled shown => ⟨?_, fun workflow => ?_⟩⟩
  · rw [WorkflowDraft.exists_build_iff_unscheduled,
      WorkflowDraft.exists_crontab_iff scheduled shown, exists_readCrontab_iff]
  · exact WorkflowDraft.schedule_of_build scheduled shown

theorem acceptance_surrounded :
    let text := " 0 0 0 * * ? *\t"
    let draft : WorkflowDraft :=
      { name := "w", gateway := ⟨0⟩, schedule := some text }
    readCrontab text = .ok "0 0 0 * * ? *" ∧
      (fields text.toList).length = crontabFields ∧
      ∃ workflow schedule, draft.build = .ok workflow ∧
        workflow.schedule = some schedule ∧
          schedule.crontab = "0 0 0 * * ? *" := by
  intro text draft
  obtain ⟨accepted, counted, builds⟩ := acceptance text
  have read := (accepted "0 0 0 * * ? *").mpr (by decide +kernel)
  have inFields := (counted (by decide +kernel)).mp ⟨_, read⟩
  have plain : ({ draft with schedule := none }.build).isOk = true := by
    decide +kernel
  obtain ⟨built, kept⟩ := builds draft rfl (by decide +kernel)
  obtain ⟨workflow, made⟩ :=
    built.mpr ⟨by decide +kernel, Except.exists_of_isOk plain⟩
  obtain ⟨schedule, held, same⟩ := kept workflow made
  exact ⟨read, inFields, workflow, schedule, made, held,
    same.trans (by decide +kernel)⟩

/-- Six fields are accepted if two spaces stand between two of them, and seven
fields are refused if a tabulator does. -/
theorem fields_miscounted :
    let doubled := "0 0 0 * *  ?"
    let tabbed := "0\t0 0 * * ? *"
    let draft : WorkflowDraft :=
      { name := "w", gateway := ⟨0⟩, schedule := some doubled }
    (readCrontab doubled = .ok doubled ∧
        (∃ workflow, draft.build = .ok workflow) ∧
        (fields doubled.toList).length = 6) ∧
      (∀ crontab, readCrontab tabbed ≠ .ok crontab) ∧
        (fields tabbed.toList).length = crontabFields := by
  intro doubled tabbed draft
  have builds : draft.build.isOk = true := by decide +kernel
  have refused : (readCrontab tabbed).isOk = false := by decide +kernel
  refine ⟨⟨by decide +kernel, Except.exists_of_isOk builds, by decide +kernel⟩,
    fun crontab accepted => ?_, by decide +kernel⟩
  rw [accepted] at refused
  cases refused

end Schedule

end Orchestration
