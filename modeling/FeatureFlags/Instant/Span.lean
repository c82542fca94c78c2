import FeatureFlags.Instant.Basic

/-!
**Spans of time, in words of a fixed size.**

A span counts whole seconds in a signed word, which may be negative, and the nanoseconds after them.
Spans are refused, rather than wrapped, where they are longer than 2^63 - 1 milliseconds, forward or
backward. The span from one instant to another is the one between their days and the one between
their clock times.

* `TimeSpan.of?`, `TimeSpan.ofNanos?`, `TimeSpan.ofDays?`, `TimeSpan.add?`: spans that are not too
  long.
* `TimeSpan.isShorter`: the order of spans.
* `Instant.since?`: the span from one instant to another.
-/

namespace FeatureFlags

/-- A span of time, forward or backward. -/
structure TimeSpan where
  seconds : Int64
  nanos : UInt32
  nanos_lt : nanos < 1000000000
deriving DecidableEq, Repr

namespace TimeSpan

/-- The span of seconds and nanoseconds, if these make less than a second and the span is not too
long. -/
def of? (seconds : Int64) (nanos : UInt32) : Option TimeSpan :=
  if nanos_lt : nanos < 1000000000 then
    if seconds < -9223372036854776 ∨ 9223372036854775 < seconds ∨
        (seconds = 9223372036854775 ∧ 807000000 < nanos) ∨
        (seconds = -9223372036854776 ∧ nanos < 193000000) then none
    else some ⟨seconds, nanos, nanos_lt⟩
  else none

/-- The span forward of a number of nanoseconds. The seconds are compared before they are put into a
signed word. -/
def ofNanos? (nanos : Nat) : Option TimeSpan :=
  if 9223372036854775 < nanos / 1000000000 then none
  else of? (Int64.ofInt (nanos / 1000000000 : Nat)) (UInt32.ofNat (nanos % 1000000000))

/-- The span of a number of days; the product must not have wrapped. -/
def ofDays? (days : Int64) : Option TimeSpan :=
  if days.toInt * 86400 = (days * 86400).toInt then of? (days * 86400) 0 else none

/-- One span after another. -/
def add? (first second : TimeSpan) : Option TimeSpan :=
  let seconds := first.seconds + second.seconds
  let nanos := first.nanos + second.nanos
  if 1000000000 ≤ nanos then of? (seconds + 1) (nanos - 1000000000) else of? seconds nanos

/-- Spans are ordered by seconds, then by nanoseconds. -/
def isShorter (first second : TimeSpan) : Bool :=
  decide (first.seconds < second.seconds) ||
    (first.seconds == second.seconds && decide (first.nanos < second.nanos))

end TimeSpan

namespace Instant

/-- The span from the day of `b` to the day of `a`. -/
def daysSince? (a b : Instant) : Option TimeSpan :=
  TimeSpan.ofDays? (Int64.ofInt a.dayNumber - Int64.ofInt b.dayNumber)

/-- The leap seconds between the clock times of `b` and `a`: one counts if the clock times lie on
different sides of it. -/
def leapsSince (a b : Instant) : Int :=
  if b.secondOfDay < a.secondOfDay ∧ nanosPerSecond ≤ b.nanos then 1
  else if a.secondOfDay < b.secondOfDay ∧ nanosPerSecond ≤ a.nanos then -1
  else 0

/-- The span from the clock time of `b` to that of `a`. -/
def clockSince? (a b : Instant) : Option TimeSpan :=
  let seconds := Int64.ofInt a.secondOfDay - Int64.ofInt b.secondOfDay
  let nanos := (Int64.ofInt a.nanos - Int64.ofInt b.nanos).toInt
  TimeSpan.of? (seconds + Int64.ofInt (a.leapsSince b) + Int64.ofInt (nanos / 1000000000))
    (UInt32.ofNat (nanos % 1000000000).toNat)

/-- The span from `b` to `a`. -/
def since? (a b : Instant) : Option TimeSpan := do
  let days ← a.daysSince? b
  let clock ← a.clockSince? b
  days.add? clock

end Instant

end FeatureFlags
