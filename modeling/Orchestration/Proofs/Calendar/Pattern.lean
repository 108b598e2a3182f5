import Mathlib.Data.List.Count
import Orchestration.Calendar.Schedule
import Orchestration.Proofs.Number.Numeral

namespace Orchestration

open Text

/-! What patterns take from a text. The marks that stand in a text tell by which
pattern it can be read. -/

/-- What numbers consist of, and what is left out around them. -/
def isFiller (c : Char) : Bool := isAsciiBlank c || isDigit c

namespace PatternPart

/-- What may stand for a part in a text, up to fillers behind it. -/
def leads : PatternPart → List (List Char)
  | year => [[], ['-'], ['+']]
  | char c => [[c]]
  | _ => [[]]

/-- How often a character stands in all that may be read for a part. -/
def least (c : Char) (part : PatternPart) : Nat :=
  if part = char c then 1 else 0

/-- How often it may stand there at most. In front of a year there may be a
sign. -/
def most (c : Char) (part : PatternPart) : Nat :=
  if part = year ∧ (c = '-' ∨ c = '+') then 1 else least c part

def isTime : PatternPart → Bool
  | hour | minute | second => true
  | _ => false

theorem count_lead {part : PatternPart} {lead : List Char} {c : Char}
    (listed : lead ∈ part.leads) :
    part.least c ≤ lead.count c ∧ lead.count c ≤ part.most c := by
  cases part with
  | year =>
      simp only [leads, List.mem_cons, List.not_mem_nil, or_false] at listed
      rcases listed with rfl | rfl | rfl
      · simp [least]
      · by_cases same : c = '-'
        · simp [same, least, most]
        · simp [Ne.symm same, least]
      · by_cases same : c = '+'
        · simp [same, least, most]
        · simp [Ne.symm same, least]
  | char d =>
      cases List.mem_singleton.mp listed
      by_cases same : d = c <;> simp [same, least, most]
  | _ =>
      cases List.mem_singleton.mp listed
      simp [least]

end PatternPart

open PatternPart (least most)

namespace MomentReading

variable {width value : Nat} {text rest : List Char}
  {reading next result : MomentReading} {part : PatternPart}
  {pattern : List PatternPart} {c : Char}

theorem number?_taken (found : number? width text = some (value, rest)) :
    ∃ filler, text = filler ++ rest ∧ ∀ c ∈ filler, isFiller c = true := by
  rw [number?] at found
  split at found
  · cases found
  · cases found
    set shown := text.dropWhile isAsciiBlank
    set digits := (shown.take width).takeWhile isDigit
    have first : digits <+: shown :=
      (List.takeWhile_prefix _).trans (List.take_prefix width shown)
    refine ⟨text.takeWhile isAsciiBlank ++ digits, ?_, ?_⟩
    · rw [List.append_assoc, List.prefix_iff_eq_append.mp first]
      exact List.takeWhile_append_dropWhile.symm
    · refine List.forall_mem_append.mpr ⟨fun c member => ?_, fun c member => ?_⟩
      · simp [isFiller, List.mem_takeWhile_imp member]
      · simp [isFiller, List.mem_takeWhile_imp member]

theorem step_taken (taken : reading.step part text = some (next, rest)) :
    ∃ lead ∈ part.leads, ∃ filler,
      text = lead ++ (filler ++ rest) ∧ ∀ c ∈ filler, isFiller c = true := by
  cases part with
  | year =>
      obtain ⟨⟨year, after⟩, found, same⟩ := Option.map_eq_some_iff.mp taken
      cases same
      obtain ⟨⟨value, after⟩, number, same⟩ := Option.map_eq_some_iff.mp found
      cases same
      obtain ⟨filler, split, all⟩ := number?_taken number
      rcases Numeral.readSign_cases text with
        ⟨digits, rfl, signed⟩ | ⟨digits, rfl, signed⟩ | signed
      · exact ⟨['-'], by simp [PatternPart.leads], filler,
          congrArg ('-' :: ·) split, all⟩
      · exact ⟨['+'], by simp [PatternPart.leads], filler,
          congrArg ('+' :: ·) split, all⟩
      · refine ⟨[], by simp [PatternPart.leads], filler, ?_, all⟩
        exact (congrArg Prod.snd signed).symm.trans split
  | char d =>
      rw [step.eq_def] at taken
      dsimp only at taken
      split at taken
      · split at taken
        next same =>
          cases taken
          exact ⟨[d], List.mem_singleton_self _, [], same ▸ rfl, by simp⟩
        next => cases taken
      · cases taken
  | blank =>
      cases taken
      refine ⟨[], List.mem_singleton_self _, text.takeWhile isAsciiBlank,
        List.takeWhile_append_dropWhile.symm, fun c member => ?_⟩
      simp [isFiller, List.mem_takeWhile_imp member]
  | _ =>
      obtain ⟨⟨value, after⟩, number, same⟩ := Option.map_eq_some_iff.mp taken
      cases same
      exact ⟨[], List.mem_singleton_self _, number?_taken number⟩

theorem count_run (mark : isFiller c = false)
    (completed : run reading pattern text = some result) :
    (pattern.map (least c)).sum ≤ text.count c ∧
      text.count c ≤ (pattern.map (most c)).sum := by
  induction pattern generalizing reading text with
  | nil =>
      cases text with
      | nil => simp
      | cons d rest => cases completed
  | cons part parts induction =>
      rw [run] at completed
      split at completed
      next next rest taken =>
        obtain ⟨lead, listed, filler, rfl, all⟩ := step_taken taken
        have behind := induction completed
        have here := PatternPart.count_lead (c := c) listed
        have none : filler.count c = 0 :=
          List.count_eq_zero.mpr fun member => by simp [all c member] at mark
        simp only [List.map_cons, List.sum_cons, List.count_append]
        omega
      next => cases completed

theorem time_of_step (dated : part.isTime = false)
    (taken : reading.step part text = some (next, rest)) :
    next.hour = reading.hour ∧ next.minute = reading.minute ∧
      next.second = reading.second := by
  cases part with
  | year | month | day =>
      obtain ⟨_, -, same⟩ := Option.map_eq_some_iff.mp taken
      cases same
      exact ⟨rfl, rfl, rfl⟩
  | char c =>
      rw [step.eq_def] at taken
      dsimp only at taken
      split at taken
      · split at taken <;> cases taken
        exact ⟨rfl, rfl, rfl⟩
      · cases taken
  | blank =>
      cases taken
      exact ⟨rfl, rfl, rfl⟩
  | hour | minute | second => cases dated

theorem time_of_run (dated : ∀ part ∈ pattern, part.isTime = false)
    (completed : run reading pattern text = some result) :
    result.hour = reading.hour ∧ result.minute = reading.minute ∧
      result.second = reading.second := by
  induction pattern generalizing reading text with
  | nil =>
      cases text with
      | nil =>
          cases completed
          exact ⟨rfl, rfl, rfl⟩
      | cons c rest => cases completed
  | cons part parts induction =>
      obtain ⟨here, behind⟩ := List.forall_mem_cons.mp dated
      rw [run] at completed
      split at completed
      next next rest taken =>
        have kept := time_of_step here taken
        obtain ⟨hour, minute, second⟩ := induction behind completed
        exact ⟨hour.trans kept.1, minute.trans kept.2.1, second.trans kept.2.2⟩
      next => cases completed

end MomentReading

namespace Moment

variable {text : List Char} {pattern other : List PatternPart}
  {moment : Moment} {c : Char}

theorem count_ofPattern? (mark : isFiller c = false)
    (read : ofPattern? text pattern = some moment) :
    (pattern.map (least c)).sum ≤ text.count c ∧
      text.count c ≤ (pattern.map (most c)).sum := by
  obtain ⟨reading, completed, -⟩ := Option.bind_eq_some_iff.mp read
  exact MomentReading.count_run mark completed

/-- Some mark tells any two of the accepted forms apart. -/
theorem patterns_apart :
    ∀ pattern ∈ patterns, ∀ other ∈ patterns, pattern ≠ other →
      ∃ c, isFiller c = false ∧
        ((pattern.map (most c)).sum < (other.map (least c)).sum ∨
          (other.map (most c)).sum < (pattern.map (least c)).sum) := by
  -- Marks are tried one after the other, not all characters there are.
  have marked : ∀ pattern ∈ patterns, ∀ other ∈ patterns, pattern ≠ other →
      [':', '/', '-', 'T'].any fun c => !isFiller c &&
        (decide ((pattern.map (most c)).sum < (other.map (least c)).sum) ||
          decide ((other.map (most c)).sum < (pattern.map (least c)).sum)) := by
    decide
  intro pattern listed other otherListed different
  obtain ⟨c, -, apart⟩ :=
    List.any_eq_true.mp (marked pattern listed other otherListed different)
  simp only [Bool.and_eq_true, Bool.not_eq_true', Bool.or_eq_true,
    decide_eq_true_eq] at apart
  exact ⟨c, apart⟩

/-- No text can be read in two of the accepted forms. -/
theorem pattern_unique {second : Moment} (listed : pattern ∈ patterns)
    (otherListed : other ∈ patterns)
    (read : ofPattern? text pattern = some moment)
    (otherRead : ofPattern? text other = some second) : pattern = other := by
  by_contra different
  obtain ⟨c, mark, apart⟩ :=
    patterns_apart pattern listed other otherListed different
  have first := count_ofPattern? mark read
  have second := count_ofPattern? mark otherRead
  omega

end Moment

end Orchestration
