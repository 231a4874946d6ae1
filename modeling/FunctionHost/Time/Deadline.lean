-- SUMMARY: Points in time and the deadlines reckoned from them.

/-! # Deadlines

A point in time is a number of nanoseconds since 1970, and the calendar ends at a fixed one. A
deadline that would lie behind the end of the calendar is the end itself. -/

namespace FunctionHost.Time

/-- A point in time, in nanoseconds since the beginning of 1970. -/
structure Instant where
  nanos : Int
  deriving Repr, DecidableEq

namespace Instant

/-- The last nanosecond of the calendar. -/
def latest : Instant :=
  ⟨8210266876799999999999⟩

/-- A point in time given in whole milliseconds. -/
def ofMillis (millis : Int) : Instant :=
  ⟨millis * 1000000⟩

/-- A point in time rounded down to milliseconds. -/
def millis (t : Instant) : Int :=
  t.nanos.fdiv 1000000

/-- The first number of milliseconds that takes more than 63 bits. -/
def tooManyMillis : Nat := 9223372036854775808

/-- The point in time a number of milliseconds later. Too many milliseconds, or a point behind the
    end of the calendar, give that end. -/
def after (now : Instant) (timeout : UInt64) : Instant :=
  let due : Int := now.nanos + timeout.toNat * 1000000
  if timeout.toNat < tooManyMillis ∧ due ≤ latest.nanos then ⟨due⟩ else latest

end Instant

end FunctionHost.Time
