import Wireform.Binary64.Digits
import Wireform.Calendar

/-!
The time of a record: seconds since the start of 1970, world time, brought to whole microseconds,
and the two ways of writing it.
-/

namespace Wireform.Log

/-- Why seconds are not a time. -/
inductive TimeError where
  | undefined
  /-- More seconds than a clock counts. -/
  | beyondClock
  /-- A year that no calendar has. -/
  | beyondCalendar
  | year (n : Int)
  deriving DecidableEq

/-- The error in words. -/
def TimeError.message : TimeError → String
  | .undefined => "Invalid value NaN (not a number)"
  | .beyondClock => "timestamp out of range for platform time_t"
  | .beyondCalendar => "[Errno 75] Value too large for defined data type"
  | .year n => (CalendarError.year n).message

/-- Whole seconds and microseconds since the start of 1970. The fraction of a second is scaled in
double precision and rounded then, a half going to the even microsecond. -/
def splitSeconds (negative : Bool) (units : Nat) : Int × Nat :=
  let scaled :=
    roundHalfEven (Binary64.nearestUnits (units % Binary64.one * 1000000) 1) Binary64.one
  let micros : Int := (units / Binary64.one : Nat) * 1000000 + scaled
  let micros := if negative then -micros else micros
  (micros.fdiv 1000000, (micros.fmod 1000000).toNat)

/-- The greatest count of seconds on a clock; the least is one further. -/
def maxSeconds : Int := 9223372036854775807

/-- The greatest count of years from 1900 on that a calendar has; the least is one further. -/
def maxYears : Int := 2147483647

/-- The time on its day, so many seconds and microseconds after the start of 1970. -/
def momentAt (seconds : Int) (micros : Nat) : Except TimeError Moment :=
  let date := Date.ofDays (seconds.fdiv 86400)
  let time := TimeOfDay.ofMicroseconds ((seconds.fmod 86400).toNat * 1000000 + micros)
  let years := date.year - 1900
  if maxYears < years ∨ years < -maxYears - 1 then .error .beyondCalendar
  else if date.year < 1 ∨ 9999 < date.year then .error (.year (date.year.bmod 4294967296))
  else .ok { date, time, offset := some 0 }

/-- The time so many seconds after the start of 1970. -/
def moment : Binary64 → Except TimeError Moment
  | .nan => .error .undefined
  | .infinite _ => .error .beyondClock
  | .finite negative units _ =>
    let (seconds, micros) := splitSeconds negative units
    if maxSeconds < seconds ∨ seconds < -maxSeconds - 1 then .error .beyondClock
    else momentAt seconds micros

/-- A number with zeros in front up to a width. -/
def padded (width n : Nat) : String :=
  String.ofList (Binary64.paddedDigits width n)

/-- Month, day, hour, minute and second behind a year. -/
def behindYear (m : Moment) : String :=
  "-" ++ padded 2 m.date.month ++ "-" ++ padded 2 m.date.day ++ "T" ++ padded 2 m.time.hour ++
    ":" ++ padded 2 m.time.minute ++ ":" ++ padded 2 m.time.second

/-- The time for readers: milliseconds, the rest cut off. -/
def shortTime (m : Moment) : String :=
  toString m.date.year ++ behindYear m ++ "." ++ padded 3 (m.time.microsecond / 1000) ++ "Z"

/-- The time for programs: microseconds, unless there are none. -/
def longTime (m : Moment) : String :=
  padded 4 m.date.year.toNat ++ behindYear m ++
    (if m.time.microsecond = 0 then "" else "." ++ padded 6 m.time.microsecond) ++ "+00:00"

end Wireform.Log
