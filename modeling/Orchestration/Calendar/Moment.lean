namespace Orchestration

def isLeapYear (year : Int) : Bool :=
  year % 4 = 0 && (year % 100 ≠ 0 || year % 400 = 0)

def daysInMonth (year : Int) (month : Nat) : Nat :=
  if month = 2 then (if isLeapYear year then 29 else 28)
  else if month = 4 || month = 6 || month = 9 || month = 11 then 30
  else 31

def IsMoment (year : Int) (month day hour minute second : Nat) : Prop :=
  (-9999 ≤ year ∧ year ≤ 9999) ∧ (1 ≤ month ∧ month ≤ 12) ∧
    (1 ≤ day ∧ day ≤ daysInMonth year month) ∧
    hour < 24 ∧ minute < 60 ∧ second < 60

instance (year : Int) (month day hour minute second : Nat) :
    Decidable (IsMoment year month day hour minute second) := by
  unfold IsMoment
  infer_instance

structure Moment where
  year : Int
  month : Nat
  day : Nat
  hour : Nat
  minute : Nat
  second : Nat
  valid : IsMoment year month day hour minute second
deriving DecidableEq

namespace Moment

def of? (year : Int) (month day hour minute second : Nat) : Option Moment :=
  if h : IsMoment year month day hour minute second then
    some ⟨year, month, day, hour, minute, second, h⟩
  else none

def last : Moment := ⟨9999, 12, 31, 23, 59, 59, by decide⟩

instance : Inhabited Moment := ⟨last⟩

def padded (width : Nat) (value : Nat) : String :=
  let digits := Nat.toDigits 10 value
  String.ofList (List.replicate (width - digits.length) '0' ++ digits)

/-- The sign of a year takes one of the four places. -/
def yearText (year : Int) : String :=
  if year < 0 then "-" ++ padded 3 year.natAbs else padded 4 year.natAbs

def text (moment : Moment) : String :=
  yearText moment.year ++ "-" ++ padded 2 moment.month ++ "-" ++
    padded 2 moment.day ++ " " ++ padded 2 moment.hour ++ ":" ++
    padded 2 moment.minute ++ ":" ++ padded 2 moment.second

end Moment

end Orchestration
