namespace KernelCalls

/-!
# Dates and times

Days of the calendar and times of day, as data files give them. A time may say how far its clock is
ahead of universal time.

* `Date`, `Date.check` : the days that exist
* `Moment`, `Moment.check` : the times that exist, `Moment.same` : two that are one
* `text`, `written` : as they are read by people, and as they stand inside a list
-/

/-- A day of the calendar. -/
structure Date where
  year : Nat
  month : Nat
  day : Nat
  deriving DecidableEq, Repr

/-- A time of a day, with the minutes that its clock is ahead of universal time if it says so. -/
structure Moment where
  date : Date
  hour : Nat
  minute : Nat
  second : Nat
  microsecond : Nat
  ahead : Option Int
  deriving DecidableEq, Repr

/-- Which part of a date or a time does not exist. -/
inductive CalendarError where
  | year (n : Nat)
  | month
  | day
  | hour
  | minute
  | second
  /-- Clocks differ by less than a day. -/
  | ahead (minutes : Int)
  deriving DecidableEq, Repr

/-- Numbers in decimal with commas between them. -/
def commaSeparated (parts : List String) : String := ", ".intercalate parts

/-- The parts of a difference of clocks: whole days rounded down, and the seconds beyond them. -/
def differenceParts (minutes : Int) : List String :=
  let days := minutes.fdiv 1440
  let seconds := minutes.fmod 1440 * 60
  (if days = 0 then [] else [s!"days={days}"]) ++
    if seconds = 0 then [] else [s!"seconds={seconds}"]

/-- A difference of clocks as it stands inside a list. -/
def writtenDifference (minutes : Int) : String :=
  "datetime.timedelta(" ++ commaSeparated (differenceParts minutes) ++ ")"

/-- The text that reports the error. -/
def CalendarError.message : CalendarError → String
  | .year n => s!"year {n} is out of range"
  | .month => "month must be in 1..12"
  | .day => "day is out of range for month"
  | .hour => "hour must be in 0..23"
  | .minute => "minute must be in 0..59"
  | .second => "second must be in 0..59"
  | .ahead minutes =>
    "offset must be a timedelta strictly between -timedelta(hours=24) and timedelta(hours=24), not "
      ++ writtenDifference minutes ++ "."

/-- A number in decimal, padded with zeros to `width` digits. -/
def padded (width n : Nat) : String :=
  let digits := Nat.toDigits 10 n
  String.ofList (List.replicate (width - digits.length) '0' ++ digits)

namespace Date

/-- The year has a 29th of February. -/
def isLeap (year : Nat) : Bool := year % 4 == 0 && (year % 100 != 0 || year % 400 == 0)

/-- The number of days in each month of a year. -/
def monthLengths (year : Nat) : List Nat :=
  [31, if isLeap year then 29 else 28, 31, 30, 31, 30, 31, 31, 30, 31, 30, 31]

/-- Accepts the days that exist. -/
def check (d : Date) : Except CalendarError Date :=
  if d.year = 0 ∨ 9999 < d.year then .error (.year d.year)
  else if d.month = 0 ∨ 12 < d.month then .error .month
  else if d.day = 0 ∨ (monthLengths d.year).getD (d.month - 1) 0 < d.day then .error .day
  else .ok d

/-- The number of the day, counted from the first of the calendar. -/
def ordinal (d : Date) : Nat :=
  let years := d.year - 1
  365 * years + years / 4 - years / 100 + years / 400 +
    ((monthLengths d.year).take (d.month - 1)).foldl (· + ·) 0 + d.day

/-- The text of a day. -/
def text (d : Date) : String :=
  "-".intercalate [padded 4 d.year, padded 2 d.month, padded 2 d.day]

/-- A day as it stands inside a list. -/
def written (d : Date) : String :=
  "datetime.date(" ++ commaSeparated ([d.year, d.month, d.day].map Nat.repr) ++ ")"

end Date

namespace Moment

/-- Accepts the times that exist. A difference of clocks is looked at first. -/
def check (m : Moment) : Except CalendarError Moment := do
  if let some minutes := m.ahead then
    if 1440 ≤ minutes.natAbs then throw (.ahead minutes)
  discard m.date.check
  if 23 < m.hour then throw .hour
  if 59 < m.minute then throw .minute
  if 59 < m.second then throw .second
  return m

/-- The microseconds that the clock has counted. -/
def clock (m : Moment) : Int :=
  (((m.date.ordinal * 24 + m.hour) * 60 + m.minute) * 60 + m.second) * 1000000 + m.microsecond

/-- Two times are one: their clocks agree, after the difference of the clocks if both say it. -/
def same (a b : Moment) : Bool :=
  match a.ahead, b.ahead with
  | none, none => a.clock == b.clock
  | some x, some y => a.clock - x * 60000000 == b.clock - y * 60000000
  | _, _ => false

/-- The text of a difference of clocks. -/
def aheadText (minutes : Int) : String :=
  let n := minutes.natAbs
  (if minutes < 0 then "-" else "+") ++ padded 2 (n / 60) ++ ":" ++ padded 2 (n % 60)

/-- The text of a time. -/
def text (m : Moment) : String :=
  let time := ":".intercalate ([m.hour, m.minute, m.second].map (padded 2))
  let fraction := if m.microsecond = 0 then "" else "." ++ padded 6 m.microsecond
  m.date.text ++ " " ++ time ++ fraction ++ (m.ahead.map aheadText).getD ""

/-- A difference of clocks as it stands inside a list with its time. -/
def writtenAhead (minutes : Int) : String :=
  "tzinfo=datetime.timezone" ++
    if minutes = 0 then ".utc" else "(" ++ writtenDifference minutes ++ ")"

/-- A time as it stands inside a list. Seconds are left out where nothing but zeros follows. -/
def written (m : Moment) : String :=
  let parts := [m.date.year, m.date.month, m.date.day, m.hour, m.minute] ++
    if m.microsecond ≠ 0 then [m.second, m.microsecond]
    else if m.second ≠ 0 then [m.second]
    else []
  "datetime.datetime(" ++
    commaSeparated (parts.map Nat.repr ++ (m.ahead.map writtenAhead).toList) ++ ")"

end Moment

end KernelCalls
