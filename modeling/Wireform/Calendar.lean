/-!
Dates and times of day: which exist, and which date lies so many days from the first of January
1970.
-/

namespace Wireform

/-- A day of the calendar. -/
structure Date where
  year : Int
  month : Nat
  day : Nat
  deriving DecidableEq

/-- A time of day, down to the microsecond. -/
structure TimeOfDay where
  hour : Nat
  minute : Nat
  second : Nat
  microsecond : Nat
  deriving DecidableEq

/-- Why a date or time does not exist. -/
inductive CalendarError where
  | year (n : Int)
  | month
  | day
  | hour
  | minute
  | second
  /-- The distance from world time, in minutes, is a day or more. -/
  | offset (minutes : Int)
  deriving DecidableEq

/-- A span of less than a day either way, as messages show it: whole days, rounded down, and the
seconds left over. -/
def spanText (minutes : Int) : String :=
  let days := minutes.fdiv 1440
  let seconds := 60 * minutes.fmod 1440
  let parts := (if days = 0 then [] else ["days=" ++ toString days]) ++
    (if seconds = 0 then [] else ["seconds=" ++ toString seconds])
  "datetime.timedelta(" ++ ", ".intercalate parts ++ ")"

/-- The error in words. -/
def CalendarError.message : CalendarError → String
  | .year n => "year " ++ toString n ++ " is out of range"
  | .month => "month must be in 1..12"
  | .day => "day is out of range for month"
  | .hour => "hour must be in 0..23"
  | .minute => "minute must be in 0..59"
  | .second => "second must be in 0..59"
  | .offset minutes =>
    "offset must be a timedelta strictly between -timedelta(hours=24) and " ++
      "timedelta(hours=24), not " ++ spanText minutes ++ "."

namespace Date

/-- Does the year have a 29th of February? -/
def isLeap (year : Int) : Bool :=
  year % 4 == 0 && (year % 100 != 0 || year % 400 == 0)

/-- The days of a month. -/
def monthLength (year : Int) : Nat → Nat
  | 2 => if isLeap year then 29 else 28
  | 4 | 6 | 9 | 11 => 30
  | _ => 31

/-- The date, if it lies in the years 1 to 9999 and exists. -/
def check (d : Date) : Except CalendarError Date :=
  if d.year < 1 ∨ 9999 < d.year then .error (.year d.year)
  else if d.month < 1 ∨ 12 < d.month then .error .month
  else if d.day < 1 ∨ monthLength d.year d.month < d.day then .error .day
  else .ok d

/-- The date so many days after the first of January 1970. Years are counted from March within
cycles of 400 years, so that the leap day comes last. -/
def ofDays (days : Int) : Date :=
  let shifted := days + 719468
  let cycle := shifted.fdiv 146097
  let dayOfCycle := (shifted.fmod 146097).toNat
  let yearOfCycle :=
    (dayOfCycle - dayOfCycle / 1460 + dayOfCycle / 36524 - dayOfCycle / 146096) / 365
  let dayOfYear := dayOfCycle - (365 * yearOfCycle + yearOfCycle / 4 - yearOfCycle / 100)
  let monthFromMarch := (5 * dayOfYear + 2) / 153
  let month := if monthFromMarch < 10 then monthFromMarch + 3 else monthFromMarch - 9
  let year := 400 * cycle + yearOfCycle + if month ≤ 2 then 1 else 0
  { year, month, day := dayOfYear - (153 * monthFromMarch + 2) / 5 + 1 }

/-- The days from the first of January 1970 to a date. -/
def toDays (d : Date) : Int :=
  let year := if d.month ≤ 2 then d.year - 1 else d.year
  let cycle := year.fdiv 400
  let yearOfCycle := year.fmod 400
  let monthFromMarch := (d.month + 9) % 12
  let dayOfYear := (153 * monthFromMarch + 2) / 5 + d.day - 1
  146097 * cycle + (365 * yearOfCycle + yearOfCycle / 4 - yearOfCycle / 100 + dayOfYear) - 719468

end Date

namespace TimeOfDay

/-- The time, if it exists. -/
def check (t : TimeOfDay) : Except CalendarError TimeOfDay :=
  if 23 < t.hour then .error .hour
  else if 59 < t.minute then .error .minute
  else if 59 < t.second then .error .second
  else .ok t

/-- The microseconds since midnight. -/
def toMicroseconds (t : TimeOfDay) : Nat :=
  ((t.hour * 60 + t.minute) * 60 + t.second) * 1000000 + t.microsecond

/-- The time so many microseconds after midnight. -/
def ofMicroseconds (n : Nat) : TimeOfDay :=
  let seconds := n / 1000000
  { hour := seconds / 3600, minute := seconds / 60 % 60, second := seconds % 60,
    microsecond := n % 1000000 }

end TimeOfDay

/-- A time on a day, with the minutes by which its place is ahead of world time, if known. -/
structure Moment where
  date : Date
  time : TimeOfDay
  offset : Option Int
  deriving DecidableEq

namespace Moment

/-- Microseconds since the start of 1970, by the clock of the place. -/
def clock (m : Moment) : Int :=
  m.date.toDays * 86400000000 + m.time.toMicroseconds

/-- Are two moments the same point in time? One with a known place never equals one without. -/
def same (a b : Moment) : Bool :=
  match a.offset, b.offset with
  | none, none => a.clock == b.clock
  | some x, some y => a.clock - x * 60000000 == b.clock - y * 60000000
  | _, _ => false

end Moment

end Wireform
