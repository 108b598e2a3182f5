import Orchestration.Calendar.Moment
import Orchestration.Error
import Orchestration.Json.Printer
import Orchestration.Number.Numeral
import Orchestration.Text.Basic

namespace Orchestration

open Text

/-! Reading moments by patterns. Blanks in front of a number are skipped, and a
blank in a pattern stands for any number of blanks. -/

inductive PatternPart where
  | year
  | month
  | day
  | hour
  | minute
  | second
  | char (c : Char)
  | blank
deriving DecidableEq

/-- The numbers read so far. -/
structure MomentReading where
  year : Int := 0
  month : Nat := 0
  day : Nat := 0
  hour : Nat := 0
  minute : Nat := 0
  second : Nat := 0

namespace MomentReading

def number? (width : Nat) (text : List Char) : Option (Nat × List Char) :=
  let text := text.dropWhile isAsciiBlank
  let digits := (text.take width).takeWhile isDigit
  if digits = [] then none
  else some (valueOf digits, text.drop digits.length)

def year? (text : List Char) : Option (Int × List Char) :=
  let (negative, text) := Numeral.readSign text
  (number? 4 text).map fun (year, rest) =>
    (if negative then -year else year, rest)

/-- A leap second counts as the second before it. -/
def leapless (second : Nat) : Nat := if second = 60 then 59 else second

def step (reading : MomentReading) (part : PatternPart) (text : List Char) :
    Option (MomentReading × List Char) :=
  match part with
  | .year =>
      (year? text).map fun (year, rest) => ({ reading with year }, rest)
  | .month =>
      (number? 2 text).map fun (month, rest) => ({ reading with month }, rest)
  | .day =>
      (number? 2 text).map fun (day, rest) => ({ reading with day }, rest)
  | .hour =>
      (number? 2 text).map fun (hour, rest) => ({ reading with hour }, rest)
  | .minute =>
      (number? 2 text).map fun (minute, rest) => ({ reading with minute }, rest)
  | .second =>
      (number? 2 text).map fun (second, rest) =>
        ({ reading with second := leapless second }, rest)
  | .blank => some (reading, text.dropWhile isAsciiBlank)
  | .char c =>
      match text with
      | first :: rest => if first = c then some (reading, rest) else none
      | [] => none

def run (reading : MomentReading) :
    List PatternPart → List Char → Option MomentReading
  | [], [] => some reading
  | [], _ :: _ => none
  | part :: parts, text =>
      match reading.step part text with
      | some (reading, rest) => run reading parts rest
      | none => none

def moment? (reading : MomentReading) : Option Moment :=
  Moment.of? reading.year reading.month reading.day reading.hour
    reading.minute reading.second

end MomentReading

namespace Moment

def date (separator : List PatternPart) : List PatternPart :=
  [.year] ++ separator ++ [.month] ++ separator ++ [.day]

def timeOfDay : List PatternPart :=
  [.hour, .char ':', .minute, .char ':', .second]

/-- The accepted forms. A date alone means its midnight. -/
def patterns : List (List PatternPart) :=
  [date [.char '-'] ++ [.blank] ++ timeOfDay,
    date [.char '-'] ++ [.char 'T'] ++ timeOfDay,
    date [.char '/'] ++ [.blank] ++ timeOfDay,
    date [] ++ [.blank] ++ timeOfDay,
    date [.char '-'],
    date [.char '/'],
    date []]

def ofPattern? (text : List Char) (pattern : List PatternPart) :
    Option Moment :=
  (MomentReading.run {} pattern text).bind (·.moment?)

def read (text : String) : Except Error Moment :=
  let text := trimmed text
  match patterns.findSome? (ofPattern? text.toList) with
  | some moment => .ok moment
  | none => .error (.parameter (.unreadableMoment text))

end Moment

structure Schedule where
  crontab : String
  start : Option Moment := none
  finish : Option Moment := none
deriving DecidableEq

namespace Schedule

/-- Fields of a crontab are divided by single spaces. -/
def readCrontab (text : String) : Except Error String :=
  let crontab := trimmed text
  if (crontab.toList.filter (· = ' ')).length + 1 = crontabFields then
    .ok crontab
  else .error (.parameter (.wrongFieldCount crontab))

/-- A schedule without a start begins at `now`; one without an end goes on to
the last moment. -/
def descriptor (schedule : Schedule) (timezone now : String) : Json :=
  .object
    [("startTime", .string ((schedule.start.map Moment.text).getD now)),
      ("endTime", .string (schedule.finish.getD .last).text),
      ("crontab", .string schedule.crontab),
      ("timezoneId", .string timezone)]

end Schedule

end Orchestration
