-- SUMMARY: Reckoning within the calendar, where every step is checked and numbers have 64 bits.
import FunctionHost.Time.Deadline

/-! # The calendar

The calendar has a first and a last point in time. A deadline is reckoned in three steps, and each
of them has a limit of its own: the milliseconds must be a signed number of 64 bits, they must make
a lapse that is not too long, and what comes out must be a point in time of the calendar. A step
beyond its limit has no result. Clocks count no leap seconds, so a point in time is nothing but its
number of nanoseconds. -/

namespace FunctionHost.Time

/-- The signed number of 64 bits that a number is, if it has no more than 63. -/
def signed? (n : UInt64) : Option Int64 :=
  if n.toNat < Instant.tooManyMillis then some (.ofNat n.toNat) else none

/-- The longest lapse, in nanoseconds. -/
def longestLapse : Nat :=
  9223372036854775807 * 1000000

/-- A length of time, forwards or backwards. -/
structure Lapse where
  nanos : Int
  bounded : nanos.natAbs ≤ longestLapse
  deriving Repr, DecidableEq

/-- A lapse of a number of milliseconds, unless that is too long. -/
def Lapse.ofMillis? (millis : Int64) : Option Lapse :=
  if bounded : (millis.toInt * 1000000).natAbs ≤ longestLapse then some ⟨_, bounded⟩ else none

namespace Instant

/-- The first nanosecond of the calendar. -/
def earliest : Instant :=
  ⟨-8334601228800000000000⟩

/-- A point in time of the calendar. -/
def InCalendar (t : Instant) : Prop :=
  earliest.nanos ≤ t.nanos ∧ t.nanos ≤ latest.nanos

instance (t : Instant) : Decidable t.InCalendar :=
  inferInstanceAs (Decidable (_ ∧ _))

/-- The point in time that is a lapse away, if it is one of the calendar. -/
def shifted? (t : Instant) (lapse : Lapse) : Option Instant :=
  let due : Instant := ⟨t.nanos + lapse.nanos⟩
  if due.InCalendar then some due else none

/-- The point in time a number of milliseconds later, if every step towards it has a result. -/
def due? (now : Instant) (timeout : UInt64) : Option Instant := do
  let millis ← signed? timeout
  let lapse ← Lapse.ofMillis? millis
  now.shifted? lapse

/-- A point in time rounded down to milliseconds, as a signed number of 64 bits. -/
def stamp (t : Instant) : Int64 :=
  .ofInt t.millis

end Instant

end FunctionHost.Time
