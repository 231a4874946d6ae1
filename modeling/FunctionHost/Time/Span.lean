-- SUMMARY: Lengths of time, with their number of milliseconds as a binary64 number.
import FunctionHost.Number.Binary64

/-! # Spans of time

A span is a number of whole seconds below 2⁶⁴ and a fraction of a second in nanoseconds. A
measured span is reported in milliseconds, and never as more than the limit it ran under. -/

namespace FunctionHost.Time

/-- A length of time. -/
structure Span where
  seconds : UInt64
  nanos : Fin 1000000000
  deriving Repr, DecidableEq

namespace Span

/-- A whole number of seconds. -/
def ofSeconds (seconds : UInt64) : Span :=
  ⟨seconds, 0⟩

/-- A number of milliseconds below 2⁶⁴. -/
def ofMillis (millis : Nat) : Span :=
  ⟨UInt64.ofNat (millis / 1000), Fin.ofNat 1000000000 (millis % 1000 * 1000000)⟩

/-- The whole span in nanoseconds. -/
def toNanos (s : Span) : Nat :=
  s.seconds.toNat * 1000000000 + s.nanos.val

/-- The whole milliseconds of a span, at most 2⁶⁴ - 1. -/
def toMillis (s : Span) : UInt64 :=
  UInt64.ofNat (min (s.toNanos / 1000000) (UInt64.size - 1))

/-- The part of a span that lies within its seconds. -/
def truncated (s : Span) : Span :=
  ofSeconds s.seconds

/-- The shorter of two spans. -/
def shorter (s t : Span) : Span :=
  if s.toNanos ≤ t.toNanos then s else t

/-- The milliseconds of a span: its nanoseconds as a binary64 number, divided by a million. -/
def millis (s : Span) : Number.Binary64 :=
  (Number.Binary64.ofNat s.toNanos).divNat 1000000

/-- The milliseconds of a measured span, as if it had ended at its limit at the latest. -/
def clampedMillis (elapsed limit : Span) : Number.Binary64 :=
  (elapsed.shorter limit).millis

end Span

end FunctionHost.Time
