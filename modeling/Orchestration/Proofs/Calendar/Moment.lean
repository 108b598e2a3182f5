import Orchestration.Calendar.Schedule
import Orchestration.Json.Basic
import Orchestration.Proofs.Calendar.Pattern
import Orchestration.Proofs.Json.NumberParts
import Orchestration.Proofs.Text.Field

namespace Orchestration

open Text

/-! Moments that were written are read again, and what is read does not depend
on the order in which the accepted forms are tried. -/

namespace Moment

variable {width value : Nat} {rest : List Char} {moment : Moment}
  {text : String} {pattern : List PatternPart}

theorem areDigits_padded (width value : Nat) :
    AreDigits (padded width value).toList where
  nonempty := by
    rw [padded, String.toList_ofList]
    exact List.append_ne_nil_of_right_ne_nil _ Nat.toDigits_ne_nil
  all := by
    rw [padded, String.toList_ofList]
    refine List.forall_mem_append.mpr
      ⟨fun c member => ?_, (areDigits_toDigits value).all⟩
    rw [List.eq_of_mem_replicate member]
    decide

theorem valueOf_padded (width value : Nat) :
    valueOf (padded width value).toList = value := by
  rw [padded, String.toList_ofList,
    valueOf_zeros_append fun _ => List.eq_of_mem_replicate, valueOf_eq_ofDigits]
  exact (isDecimal_toDigits value).value

theorem length_padded (width value : Nat) :
    (padded width value).toList.length =
      max width (Nat.toDigits 10 value).length := by
  rw [padded, String.toList_ofList, List.length_append, List.length_replicate]
  omega

theorem length_toDigits_le (positive : 0 < width) (small : value < 10 ^ width) :
    (Nat.toDigits 10 value).length ≤ width :=
  (Nat.length_toDigits_le_iff (by decide) positive).mpr small

end Moment

namespace MomentReading

open Moment (padded)

variable {width value : Nat} {digits rest : List Char}

private theorem dropWhile_digits (digit : AreDigits digits)
    (rest : List Char) :
    (digits ++ rest).dropWhile isAsciiBlank = digits ++ rest := by
  cases digits with
  | nil => exact absurd rfl digit.nonempty
  | cons c tail =>
      refine List.dropWhile_cons_of_neg fun blank => ?_
      have digit := digit.all c List.mem_cons_self
      simp only [isAsciiBlank, Bool.or_eq_true, decide_eq_true_eq] at blank
      rcases blank with (((rfl | rfl) | rfl) | rfl) | rfl <;>
        exact absurd digit (by decide)

theorem number?_append (digit : AreDigits digits)
    (short : digits.length ≤ width)
    (ends : digits.length < width → StartsPlain rest) :
    number? width (digits ++ rest) = some (valueOf digits, rest) := by
  have behind : (rest.take (width - digits.length)).takeWhile isDigit = [] := by
    rcases short.lt_or_eq with less | same
    · cases rest with
      | nil => rw [List.take_nil, List.takeWhile_nil]
      | cons c tail =>
          have other := ends less c rfl
          rw [List.take_cons (Nat.sub_pos_of_lt less),
            List.takeWhile_cons_of_neg (by simp [other])]
    · rw [same, Nat.sub_self]
      rfl
  have taken : ((digits ++ rest).take width).takeWhile isDigit = digits := by
    rw [List.take_append, List.take_of_length_le short,
      List.takeWhile_append_of_pos digit.all, behind, List.append_nil]
  rw [number?, dropWhile_digits digit, taken, if_neg digit.nonempty,
    List.drop_left]

theorem number?_padded (positive : 0 < width) (small : value < 10 ^ width)
    (rest : List Char) :
    number? width ((padded width value).toList ++ rest) =
      some (value, rest) := by
  have length : (padded width value).toList.length = width := by
    rw [Moment.length_padded]
    exact max_eq_left (Moment.length_toDigits_le positive small)
  rw [number?_append (Moment.areDigits_padded width value) length.le
    fun less => absurd length less.ne, Moment.valueOf_padded]

theorem year?_yearText {year : Int} (least : -9999 ≤ year)
    (greatest : year ≤ 9999) (plain : StartsPlain rest) :
    year? ((Moment.yearText year).toList ++ rest) = some (year, rest) := by
  rw [Moment.yearText]
  split
  next negative =>
    have short : (padded 3 year.natAbs).toList.length ≤ 4 := by
      rw [Moment.length_padded]
      exact max_le (by decide)
        (Moment.length_toDigits_le (by decide) (by omega))
    have read := number?_append (Moment.areDigits_padded 3 year.natAbs) short
      fun _ => plain
    rw [String.toList_append, year?]
    change (number? 4 ((padded 3 year.natAbs).toList ++ rest)).map _ = _
    rw [read, Moment.valueOf_padded]
    change some (-(year.natAbs : Int), rest) = _
    rw [Int.ofNat_natAbs_of_nonpos negative.le, Int.neg_neg]
  next positive =>
    rw [year?, Json.Token.readSign_digits (Moment.areDigits_padded _ _)]
    dsimp only
    rw [number?_padded (by decide) (by omega)]
    change some ((year.natAbs : Int), rest) = _
    rw [Int.natAbs_of_nonneg (by omega)]

end MomentReading

namespace PatternPart

variable {moment : Moment} {rest : List Char} {reading : MomentReading}
  {part : PatternPart} {pattern : List PatternPart}

def written (moment : Moment) : PatternPart → List Char
  | year => (Moment.yearText moment.year).toList
  | month => (Moment.padded 2 moment.month).toList
  | day => (Moment.padded 2 moment.day).toList
  | hour => (Moment.padded 2 moment.hour).toList
  | minute => (Moment.padded 2 moment.minute).toList
  | second => (Moment.padded 2 moment.second).toList
  | char c => [c]
  | blank => [' ']

def fill (moment : Moment) (reading : MomentReading) :
    PatternPart → MomentReading
  | year => { reading with year := moment.year }
  | month => { reading with month := moment.month }
  | day => { reading with day := moment.day }
  | hour => { reading with hour := moment.hour }
  | minute => { reading with minute := moment.minute }
  | second => { reading with second := moment.second }
  | char _ | blank => reading

/-- What comes behind the part is not taken for more of it. -/
def Ends (rest : List Char) : PatternPart → Prop
  | year => StartsPlain rest
  | blank => rest.dropWhile isAsciiBlank = rest
  | _ => True

theorem step_written (ends : part.Ends rest) :
    reading.step part (part.written moment ++ rest) =
      some (part.fill moment reading, rest) := by
  obtain ⟨⟨least, greatest⟩, ⟨-, month⟩, ⟨-, day⟩, hour, minute, second⟩ :=
    moment.valid
  have days : daysInMonth moment.year moment.month ≤ 31 := by
    rw [daysInMonth]
    split_ifs <;> decide
  have number : ∀ {value : Nat}, value < 100 →
      MomentReading.number? 2 ((Moment.padded 2 value).toList ++ rest) =
        some (value, rest) := fun small =>
    MomentReading.number?_padded (by decide) small rest
  cases part with
  | year =>
      rw [written, MomentReading.step,
        MomentReading.year?_yearText least greatest ends]
      rfl
  | char c => simp [written, MomentReading.step, fill]
  | blank =>
      change some (reading, (' ' :: rest).dropWhile isAsciiBlank) = _
      rw [List.dropWhile_cons_of_pos (by decide), ends]
      rfl
  | second =>
      rw [written, MomentReading.step, number (by omega)]
      simp [fill, MomentReading.leapless, second.ne]
  | _ =>
      rw [written, MomentReading.step, number (by omega)]
      rfl

/-- Every part of the pattern ends where the next one begins. -/
def Divided (moment : Moment) : List PatternPart → Prop
  | [] => True
  | part :: parts =>
      part.Ends (parts.flatMap (written moment)) ∧ Divided moment parts

theorem run_written (divided : Divided moment pattern) :
    reading.run pattern (pattern.flatMap (written moment)) =
      some (pattern.foldl (fun reading part => part.fill moment reading)
        reading) := by
  induction pattern generalizing reading with
  | nil => rfl
  | cons part parts induction =>
      rw [List.flatMap_cons, MomentReading.run, step_written divided.1]
      exact induction divided.2

end PatternPart

namespace Moment

open PatternPart (written Divided)

variable {moment : Moment} {text : String}

/-- The form in which moments are written. -/
def canonicalPattern : List PatternPart :=
  date [.char '-'] ++ [.blank] ++ timeOfDay

theorem toList_text (moment : Moment) :
    moment.text.toList = canonicalPattern.flatMap (written moment) := by
  simp [text, canonicalPattern, date, timeOfDay, written]

theorem divided_canonicalPattern (moment : Moment) :
    Divided moment canonicalPattern := by
  have digits : ∀ {value : Nat} {rest : List Char},
      ((padded 2 value).toList ++ rest).dropWhile isAsciiBlank =
        (padded 2 value).toList ++ rest :=
    MomentReading.dropWhile_digits (areDigits_padded 2 _) _
  simp [canonicalPattern, date, timeOfDay, Divided, PatternPart.Ends,
    written, digits, StartsPlain, isDigit]

theorem ofPattern?_text (moment : Moment) :
    ofPattern? moment.text.toList canonicalPattern = some moment := by
  rw [toList_text, ofPattern?,
    PatternPart.run_written (divided_canonicalPattern moment)]
  exact dif_pos moment.valid

theorem read_ok_iff :
    read text = .ok moment ↔
      ∃ pattern ∈ patterns,
        ofPattern? (trim text.toList) pattern = some moment := by
  -- The equation of the reader would compute the forms, so it is not used.
  delta read
  simp only [trimmed, String.toList_ofList]
  constructor
  · intro accepted
    split at accepted
    next found =>
      cases accepted
      exact List.exists_of_findSome?_eq_some found
    next => cases accepted
  · rintro ⟨pattern, listed, found⟩
    split
    next other first =>
      obtain ⟨tried, member, read⟩ := List.exists_of_findSome?_eq_some first
      cases pattern_unique member listed read found
      rw [read] at found
      cases found
      rfl
    next none =>
      rw [List.findSome?_eq_none_iff.mp none pattern listed] at found
      cases found

theorem trim_text (moment : Moment) :
    trim moment.text.toList = moment.text.toList := by
  have solid : ∀ width value, ∀ c ∈ (padded width value).toList,
      isBlank c = false := fun width value c member =>
    isBlank_of_isDigit ((areDigits_padded width value).all c member)
  have something := fun width value => (areDigits_padded width value).nonempty
  rw [text, String.toList_append]
  apply trim_eq_self
  · intro c first
    simp only [String.toList_append, List.append_assoc] at first
    rw [yearText] at first
    split at first
    · rw [String.toList_append] at first
      cases first
      rfl
    · rw [List.head?_append_of_ne_nil _ (something _ _)] at first
      exact solid _ _ c (List.mem_of_mem_head? first)
  · intro c last
    rw [List.getLast?_append_of_ne_nil _ (something _ _)] at last
    exact solid _ _ c (List.mem_of_mem_getLast? last)

theorem read_text (moment : Moment) : read moment.text = .ok moment :=
  read_ok_iff.mpr ⟨canonicalPattern, List.mem_cons_self, by
    rw [trim_text]
    exact ofPattern?_text moment⟩

theorem read_surrounded {before after : List Char}
    (first : ∀ c ∈ before, isBlank c) (last : ∀ c ∈ after, isBlank c) :
    read (.ofList (before ++ text.toList ++ after)) = read text := by
  have same : trim (before ++ text.toList ++ after) = trim text.toList :=
    Surrounds.trim ⟨before, after, rfl, first, last⟩
  delta read
  simp only [trimmed, String.toList_ofList, same]

/-- What was read stays the same when it is written and read once more. -/
theorem read_text_of_read (text : String) :
    (read text >>= fun moment => read moment.text) = read text := by
  cases read text with
  | ok moment => simp only [bind, Except.bind, read_text]
  | error error => rfl

def datePatterns : List (List PatternPart) :=
  [date [.char '-'], date [.char '/'], date []]

structure IsMidnight (moment : Moment) : Prop where
  hour : moment.hour = 0
  minute : moment.minute = 0
  second : moment.second = 0

theorem isMidnight_of_date {text : List Char} {pattern : List PatternPart}
    (listed : pattern ∈ datePatterns)
    (found : ofPattern? text pattern = some moment) : moment.IsMidnight := by
  have dated : ∀ pattern ∈ datePatterns, ∀ part ∈ pattern,
      part.isTime = false := by decide
  obtain ⟨reading, completed, made⟩ := Option.bind_eq_some_iff.mp found
  obtain ⟨hour, minute, second⟩ :=
    MomentReading.time_of_run (dated pattern listed) completed
  rw [MomentReading.moment?, of?] at made
  split at made <;> cases made
  exact ⟨hour, minute, second⟩

/-- Times of day are written with colons. -/
theorem mem_datePatterns_of_noColon {text : List Char}
    {pattern : List PatternPart} (listed : pattern ∈ patterns)
    (found : ofPattern? text pattern = some moment) (plain : ':' ∉ text) :
    pattern ∈ datePatterns := by
  have colons : ∀ pattern ∈ patterns,
      (pattern.map (PatternPart.least ':')).sum ≤ 0 →
        pattern ∈ datePatterns := by decide
  have counted := (count_ofPattern? (by decide : isFiller ':' = false) found).1
  rw [List.count_eq_zero.mpr plain] at counted
  exact colons pattern listed counted

theorem isMidnight_of_noColon (accepted : read text = .ok moment)
    (plain : ':' ∉ text.toList) : moment.IsMidnight := by
  obtain ⟨pattern, listed, found⟩ := read_ok_iff.mp accepted
  refine isMidnight_of_date (mem_datePatterns_of_noColon listed found ?_) found
  exact fun colon => plain (mem_of_mem_trim colon)

end Moment

namespace Schedule

open Moment (read)

/-- The times that are told of a schedule are read as its bounds. -/
theorem read_descriptor (schedule : Schedule) (timezone now : String) :
    (∀ start, schedule.start = some start → ∃ written,
        (schedule.descriptor timezone now).field? "startTime" =
            some (.string written) ∧
          read written = .ok start) ∧
      ∃ written,
        (schedule.descriptor timezone now).field? "endTime" =
            some (.string written) ∧
          read written = .ok (schedule.finish.getD .last) := by
  refine ⟨fun start set => ⟨start.text, ?_, Moment.read_text start⟩,
    _, rfl, Moment.read_text _⟩
  rw [descriptor, set]
  rfl

end Schedule

namespace Moment

/-- A written moment is read again, so what was read stays the same when it is
written and read once more. Blanks around a text do not count. A text that can
be read in one of the accepted forms is read in this one, whatever the order in
which the forms are tried; without a time of day, that is without colons, it is
a midnight. The bounds of a schedule are told in texts that are read as these
bounds. -/
theorem rereading :
    (∀ moment : Moment, read moment.text = .ok moment) ∧
      (∀ text, (read text >>= fun moment => read moment.text) = read text) ∧
      (∀ (text : String) (before after : List Char),
        (∀ c ∈ before, isBlank c) → (∀ c ∈ after, isBlank c) →
          read (.ofList (before ++ text.toList ++ after)) = read text) ∧
      (∀ text, ∀ pattern ∈ patterns, ∀ moment,
        ofPattern? (trim text.toList) pattern = some moment →
          read text = .ok moment ∧
            (pattern ∈ datePatterns → moment.IsMidnight)) ∧
      (∀ text moment, read text = .ok moment → ':' ∉ text.toList →
        moment.IsMidnight) ∧
      ∀ (schedule : Schedule) (timezone now : String),
        (∀ start, schedule.start = some start → ∃ written,
          (schedule.descriptor timezone now).field? "startTime" =
              some (.string written) ∧
            read written = .ok start) ∧
        ∃ written,
          (schedule.descriptor timezone now).field? "endTime" =
              some (.string written) ∧
            read written = .ok (schedule.finish.getD .last) := by
  refine ⟨read_text, read_text_of_read, ?surrounded, ?found, ?plain,
    Schedule.read_descriptor⟩
  case surrounded => exact fun text before after => read_surrounded
  case found =>
    exact fun text pattern listed moment found =>
      ⟨read_ok_iff.mpr ⟨pattern, listed, found⟩,
        fun dated => isMidnight_of_date dated found⟩
  case plain => exact fun text moment => isMidnight_of_noColon

theorem rereading_leapDay :
    let leapDay : Moment := ⟨2024, 2, 29, 0, 0, 0, by decide⟩
    let schedule : Schedule := { crontab := "", start := some leapDay }
    read (.ofList (['\t'] ++ "20240229".toList ++ ['\n'])) = .ok leapDay ∧
      leapDay.IsMidnight ∧
      ∃ written,
        (schedule.descriptor "UTC" "").field? "startTime" =
            some (.string written) ∧
          read written = .ok leapDay := by
  intro leapDay schedule
  obtain ⟨-, -, surrounded, found, plain, told⟩ := rereading
  obtain ⟨accepted, midnight⟩ :=
    found "20240229" (date []) (by decide) leapDay (by decide +kernel)
  have same := surrounded "20240229" ['\t'] ['\n']
    (List.forall_mem_singleton.mpr rfl) (List.forall_mem_singleton.mpr rfl)
  refine ⟨same.trans accepted, plain _ _ accepted (by decide +kernel), ?_⟩
  exact (told schedule "UTC" "").1 leapDay rfl

end Moment

end Orchestration
