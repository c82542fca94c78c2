/-!
**Instants on the proleptic Gregorian calendar, in universal time.**

An instant counts the seconds since the beginning of 1970 and the nanoseconds within the second. A
leap second is the second before it with more than a thousand million nanoseconds, so instants are
ordered by seconds first. Instants exist for the years from -262143 to 262142.

* `Instant.ofMillis?`, `Instant.toMillis`: milliseconds, counted downward from a fraction.
* `Instant.before`: the order of instants.
* `daysFromDate`, `dateOfDays`: the calendar.
-/

namespace FeatureFlags

/-- A point in time. -/
structure Instant where
  seconds : Int
  nanos : Nat
deriving DecidableEq, Repr, Inhabited

/-! ### The calendar -/

/-- A day of the calendar. -/
structure Date where
  year : Int
  month : Nat
  day : Nat
deriving DecidableEq, Repr

/-- The number of days from the first of March of the year zero to a day, counted in years that
begin in March, so that the leap day comes last. -/
def daysSinceMarchZero (date : Date) : Int :=
  let year := if date.month ≤ 2 then date.year - 1 else date.year
  let month := (date.month + 9) % 12
  365 * year + Int.fdiv year 4 - Int.fdiv year 100 + Int.fdiv year 400 +
    ((153 * month + 2) / 5 : Nat) + (date.day - 1 : Nat)

/-- The number of days from the beginning of 1970 to a day. -/
def daysFromDate (date : Date) : Int := daysSinceMarchZero date - 719468

/-- The day that lies a number of days after the beginning of 1970. -/
def dateOfDays (days : Int) : Date :=
  let shifted := days + 719468
  let era := Int.fdiv shifted 146097
  let dayOfEra := (shifted - era * 146097).toNat
  let yearOfEra := (dayOfEra - dayOfEra / 1460 + dayOfEra / 36524 - dayOfEra / 146096) / 365
  let dayOfYear := dayOfEra - (365 * yearOfEra + yearOfEra / 4 - yearOfEra / 100)
  let monthFromMarch := (5 * dayOfYear + 2) / 153
  let day := dayOfYear - (153 * monthFromMarch + 2) / 5 + 1
  let month := if monthFromMarch < 10 then monthFromMarch + 3 else monthFromMarch - 9
  let year := (yearOfEra : Int) + era * 400
  ⟨if month ≤ 2 then year + 1 else year, month, day⟩

/-- Whether a year has a leap day. -/
def isLeapYear (year : Int) : Bool :=
  year % 4 == 0 && (year % 100 != 0 || year % 400 == 0)

/-- How many days a month has. -/
def daysInMonth (year : Int) (month : Nat) : Nat :=
  if month = 2 then (if isLeapYear year then 29 else 28)
  else if month = 4 ∨ month = 6 ∨ month = 9 ∨ month = 11 then 30
  else 31

/-- The first year of the calendar. -/
def firstYear : Int := -262143

/-- The last year of the calendar. -/
def lastYear : Int := 262142

/-- Whether there is such a day. -/
def Date.isValid (date : Date) : Bool :=
  decide (firstYear ≤ date.year ∧ date.year ≤ lastYear) &&
    decide (1 ≤ date.month ∧ date.month ≤ 12) &&
    decide (1 ≤ date.day ∧ date.day ≤ daysInMonth date.year date.month)

namespace Instant

/-- The seconds of a day. -/
def secondsPerDay : Int := 86400

/-- The nanoseconds of a second. -/
def nanosPerSecond : Nat := 1000000000

/-- The first second of the calendar. -/
def firstSecond : Int := daysFromDate ⟨firstYear, 1, 1⟩ * secondsPerDay

/-- The last second of the calendar. -/
def lastSecond : Int := daysFromDate ⟨lastYear, 12, 31⟩ * secondsPerDay + 86399

/-- The instant with given seconds and nanoseconds, if it is on the calendar. -/
def ofSeconds? (seconds : Int) (nanos : Nat) : Option Instant :=
  if firstSecond ≤ seconds ∧ seconds ≤ lastSecond then some ⟨seconds, nanos⟩ else none

/-- The instant that lies a number of milliseconds after the beginning of 1970, if it is on the
calendar. -/
def ofMillis? (millis : Int) : Option Instant :=
  ofSeconds? (Int.fdiv millis 1000) ((Int.fmod millis 1000).toNat * 1000000)

/-- The whole milliseconds from the beginning of 1970 to an instant. -/
def toMillis (instant : Instant) : Int := instant.seconds * 1000 + (instant.nanos / 1000000 : Nat)

/-! ### Order -/

/-- Instants are ordered by seconds, then by nanoseconds. -/
def before (a b : Instant) : Bool :=
  decide (a.seconds < b.seconds) || (a.seconds == b.seconds && decide (a.nanos < b.nanos))

/-- The day of an instant, counted from the beginning of 1970. -/
def dayNumber (instant : Instant) : Int := Int.fdiv instant.seconds secondsPerDay

/-- The second of an instant within its day. -/
def secondOfDay (instant : Instant) : Int := Int.fmod instant.seconds secondsPerDay

end Instant

end FeatureFlags
