/-! Instants in universal time, with nanoseconds, on the proleptic Gregorian calendar.  The
nanoseconds of an instant inside a leap second run from `10 ^ 9` on.  The calendar covers the years
from -262143 to 262142. -/

namespace BearerLogin

/-- An instant: the seconds since 1970-01-01 00:00:00 UTC and the nanoseconds after them. -/
structure Instant where
  seconds : Int
  nanos : Nat
  deriving DecidableEq, Repr, Inhabited

namespace Instant

/-- Whether one instant comes before another. -/
def before (a b : Instant) : Bool :=
  a.seconds < b.seconds || (a.seconds == b.seconds && a.nanos < b.nanos)

/-- The instant `n` seconds later. -/
def plusSeconds (a : Instant) (n : Int) : Instant :=
  { a with seconds := a.seconds + n }

/-- A day of the calendar. -/
structure Date where
  year : Int
  month : Nat
  day : Nat
  deriving DecidableEq, Repr

/-- Whether the year has a 29th of February. -/
def isLeapYear (year : Int) : Bool :=
  year % 4 == 0 && (year % 100 != 0 || year % 400 == 0)

/-- The number of days of a month. -/
def daysInMonth (year : Int) (month : Nat) : Nat :=
  if month == 2 then (if isLeapYear year then 29 else 28)
  else if month == 4 || month == 6 || month == 9 || month == 11 then 30
  else 31

/-- The first and the last year of the calendar. -/
def minYear : Int := -262143
def maxYear : Int := 262142

/-- Whether the calendar has the day. -/
def Date.exists (d : Date) : Bool :=
  minYear ≤ d.year && d.year ≤ maxYear && 1 ≤ d.month && d.month ≤ 12 && 1 ≤ d.day &&
    d.day ≤ daysInMonth d.year d.month

/-- The days from 1970-01-01 to a day.  Years are counted from March, so that the leap day is the
last one of its year. -/
def Date.toDays (d : Date) : Int :=
  let year := if d.month ≤ 2 then d.year - 1 else d.year
  let era := year / 400
  let yearOfEra := year - era * 400
  let month : Int := (if d.month > 2 then d.month - 3 else d.month + 9 : Nat)
  let dayOfYear := (153 * month + 2) / 5 + d.day - 1
  let dayOfEra := yearOfEra * 365 + yearOfEra / 4 - yearOfEra / 100 + dayOfYear
  era * 146097 + dayOfEra - 719468

/-- The day that lies a number of days after 1970-01-01. -/
def Date.ofDays (days : Int) : Date :=
  let shifted := days + 719468
  let era := shifted / 146097
  let dayOfEra := shifted - era * 146097
  let yearOfEra := (dayOfEra - dayOfEra / 1460 + dayOfEra / 36524 - dayOfEra / 146096) / 365
  let dayOfYear := dayOfEra - (365 * yearOfEra + yearOfEra / 4 - yearOfEra / 100)
  let month := (5 * dayOfYear + 2) / 153
  let day := dayOfYear - (153 * month + 2) / 5 + 1
  let month := if month < 10 then month + 3 else month - 9
  let year := yearOfEra + era * 400 + (if month ≤ 2 then 1 else 0)
  ⟨year, month.toNat, day.toNat⟩

/-- The seconds of a day. -/
def secondsPerDay : Int := 86400

/-- The day of an instant. -/
def date (a : Instant) : Date :=
  .ofDays (a.seconds / secondsPerDay)

/-- The seconds since midnight. -/
def secondOfDay (a : Instant) : Nat :=
  (a.seconds % secondsPerDay).toNat

/-- The first and the last second of the calendar. -/
def minSeconds : Int := Date.toDays ⟨minYear, 1, 1⟩ * secondsPerDay
def maxSeconds : Int := Date.toDays ⟨maxYear, 12, 31⟩ * secondsPerDay + 86399

/-- The instant a number of seconds after 1970-01-01, if the calendar has it. -/
def ofSeconds? (seconds : Int) : Option Instant :=
  if minSeconds ≤ seconds ∧ seconds ≤ maxSeconds then some ⟨seconds, 0⟩ else none

end Instant

end BearerLogin
