import Mathlib.Order.Bounds.Basic
import Orchestration.Task.Options

namespace Orchestration

/-! Timeouts are told in whole minutes, in the fewest that do not end before the
time that was set. -/

def nanosecondsPerMinute : Nat := 60 * nanosecondsPerSecond

namespace Duration

variable {duration shorter longer : Duration}

def total (duration : Duration) : Nat :=
  duration.seconds * nanosecondsPerSecond + duration.nanoseconds

/-- Minutes are enough for a span exactly if they are as many as it is told in;
all bounds on told minutes come from here. -/
theorem minutes_le_iff {minutes : Nat} :
    duration.minutes ≤ minutes ↔
      duration.total ≤ minutes * nanosecondsPerMinute := by
  have valid := duration.valid
  rw [total, nanosecondsPerMinute]
  rw [nanosecondsPerSecond] at *
  rw [Duration.minutes]
  split
  next begun => omega
  next whole => omega

theorem isLeast_minutes (duration : Duration) :
    IsLeast {minutes | duration.total ≤ minutes * nanosecondsPerMinute}
      duration.minutes where
  left := minutes_le_iff.mp le_rfl
  right _ enough := minutes_le_iff.mpr enough

theorem minutes_mono (within : shorter.total ≤ longer.total) :
    shorter.minutes ≤ longer.minutes :=
  minutes_le_iff.mpr (within.trans (minutes_le_iff.mp le_rfl))

theorem isZero_iff_total : duration.isZero ↔ duration.total = 0 := by
  rw [isZero, total, Bool.and_eq_true, beq_iff_eq, beq_iff_eq,
    Nat.add_eq_zero_iff, Nat.mul_eq_zero,
    or_iff_left (by decide : nanosecondsPerSecond ≠ 0)]

theorem isZero_iff_minutes : duration.isZero ↔ duration.minutes = 0 := by
  rw [isZero_iff_total, ← Nat.le_zero, ← Nat.le_zero, minutes_le_iff,
    Nat.zero_mul]

/-- Minutes counted in words, where sums may wrap. -/
def wordMinutes (seconds : UInt64) (nanoseconds : UInt32) : UInt64 :=
  if seconds % 60 ≠ 0 ∨ nanoseconds ≠ 0 then seconds / 60 + 1
  else seconds / 60

/-- A sixtieth of a word leaves room for one minute more. -/
theorem toNat_wordMinutes (seconds : UInt64) (nanoseconds : UInt32)
    (valid : nanoseconds.toNat < nanosecondsPerSecond) :
    (wordMinutes seconds nanoseconds).toNat =
      minutes ⟨seconds.toNat, nanoseconds.toNat, valid⟩ := by
  have room : seconds.toNat / 60 + 1 < UInt64.size := by
    have := seconds.toNat_lt_size
    rw [UInt64.size] at *
    omega
  have begun : (seconds % 60 ≠ 0 ∨ nanoseconds ≠ 0) ↔
      (seconds.toNat % 60 ≠ 0 ∨ nanoseconds.toNat ≠ 0) := by
    rw [Ne, Ne, ← UInt64.toNat_inj, ← UInt32.toNat_inj, UInt64.toNat_mod]
    rfl
  rw [wordMinutes, minutes]
  simp only [begun]
  split
  next =>
      rw [UInt64.toNat_add, UInt64.toNat_div]
      exact Nat.mod_eq_of_lt room
  next => exact UInt64.toNat_div seconds 60

end Duration

namespace TaskOptions

theorem timeoutFlag_eq_opened_iff (options : TaskOptions) :
    options.timeoutFlag = .opened ↔ 0 < options.timeoutMinutes := by
  rw [timeoutFlag, timeoutMinutes]
  cases options.timeout with
  | none => simp
  | some timeout =>
      simp only [Nat.pos_iff_ne_zero, Ne, ← Duration.isZero_iff_minutes]
      cases timeout.isZero <;> simp

/-- A timeout is told in the fewest minutes that cover it, so in no fewer if it
is longer, and words are wide enough for these minutes. Tasks with such minutes,
and no others, are told to have a timeout. -/
theorem minutes_cover :
    (∀ duration : Duration,
      IsLeast {minutes | duration.total ≤ minutes * nanosecondsPerMinute}
        duration.minutes) ∧
      (∀ (seconds : UInt64) (nanoseconds : UInt32)
        (valid : nanoseconds.toNat < nanosecondsPerSecond),
        (Duration.wordMinutes seconds nanoseconds).toNat =
          Duration.minutes ⟨seconds.toNat, nanoseconds.toNat, valid⟩) ∧
      (∀ shorter longer : Duration, shorter.total ≤ longer.total →
        shorter.minutes ≤ longer.minutes) ∧
      ∀ options : TaskOptions,
        (options.timeoutFlag = .opened ↔ 0 < options.timeoutMinutes) :=
  ⟨Duration.isLeast_minutes, Duration.toNat_wordMinutes,
    fun _ _ => Duration.minutes_mono, timeoutFlag_eq_opened_iff⟩

theorem minutes_cover_longest :
    let longest : Duration := ⟨18446744073709551615, 999999999, by decide⟩
    let moment : Duration := ⟨0, 1, by decide⟩
    let options : TaskOptions := { timeout := some moment }
    (Duration.wordMinutes 18446744073709551615 999999999).toNat =
        longest.minutes ∧
      longest.minutes = 307445734561825861 ∧
      moment.minutes ≤ longest.minutes ∧ options.timeoutFlag = .opened := by
  intro longest moment options
  obtain ⟨-, words, mono, flag⟩ := minutes_cover
  exact ⟨words _ _ (by decide), by decide, mono moment longest (by decide),
    (flag options).mpr (by decide)⟩

end TaskOptions

end Orchestration
