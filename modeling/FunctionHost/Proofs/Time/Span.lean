-- SUMMARY: The milliseconds of a span: in order with other spans, and exact for limits of whole seconds.
import FunctionHost.Proofs.Number.Fixed
import FunctionHost.Settings.Timeout
import FunctionHost.Time.Span

/-! # Milliseconds of spans

The nanoseconds of a span can take far more than 53 bits, so its milliseconds are rounded twice.
Both roundings keep the order of spans. The nanoseconds of an accepted limit are a number of at most
53 bits times a power of two, because a thousand million has nine factors of two. So nothing is
rounded there, and what is measured under the limit never comes out above it. -/

namespace FunctionHost.Time.Span

open Number.Binary64 (Exact exact_shifted nearest nearest_le_of_exact nearest_mono one one_pos)

variable {s t : Span}

/-- The milliseconds of a span, as a number of units of binary64. -/
def units (s : Span) : Nat :=
  nearest (nearest (s.toNanos * one) 1) 1000000

theorem toNanos_lt (s : Span) : s.toNanos < 2 ^ 94 := by
  have seconds := s.seconds.toNat_lt
  have nanos := s.nanos.isLt
  unfold toNanos
  omega

/-- A whole number of at most 53 bits, shifted by any number of bits, is a number of binary64. -/
theorem exact_whole {a : Nat} (h : a < 2 ^ 53) (shift : Nat) : Exact (a * 2 ^ shift * one) := by
  have shifted (n : Nat) : Exact (a * 2 ^ shift * Nat.pow 2 n) := by
    rw [Nat.pow_eq, Nat.mul_assoc, ← Nat.pow_add]
    exact exact_shifted h (shift + n)
  unfold one
  apply shifted

theorem shifted_one_lt_limit : 1 * 2 ^ 94 * one < Number.Binary64.limit := by
  have power {n m : Nat} (h : 94 + n < m) : 1 * 2 ^ 94 * Nat.pow 2 n < Nat.pow 2 m := by
    rw [Nat.one_mul, Nat.pow_eq, Nat.pow_eq, ← Nat.pow_add]
    exact Nat.pow_lt_pow_right (by decide) h
  unfold one Number.Binary64.limit
  apply power
  decide

/-- The milliseconds of a span are a finite number. -/
theorem millis_eq (s : Span) : s.millis = .finite false s.units := by
  have bounded : nearest (s.toNanos * one) 1 ≤ 1 * 2 ^ 94 * one := by
    apply nearest_le_of_exact (exact_whole (by decide) 94) Nat.one_pos
    rw [Nat.mul_one, Nat.one_mul]
    exact Nat.mul_le_mul_right one (Nat.le_of_lt s.toNanos_lt)
  have finite : nearest (s.toNanos * one) 1 < Number.Binary64.limit :=
    Nat.lt_of_le_of_lt bounded shifted_one_lt_limit
  rw [millis, Number.Binary64.ofNat, Number.Binary64.ofUnits, if_pos finite]
  rfl

theorem units_mono (h : s.toNanos ≤ t.toNanos) : s.units ≤ t.units :=
  nearest_mono (by decide) (nearest_mono Nat.one_pos (Nat.mul_le_mul_right one h))

theorem toNanos_shorter (s t : Span) : (s.shorter t).toNanos = min s.toNanos t.toNanos := by
  unfold shorter
  split <;> omega

theorem toNanos_ofSeconds (seconds : UInt64) :
    (ofSeconds seconds).toNanos = seconds.toNat * 1000000000 := by
  simp [toNanos, ofSeconds]

theorem toNat_toMillis (s : Span) :
    s.toMillis.toNat = min (s.toNanos / 1000000) (UInt64.size - 1) := by
  apply UInt64.toNat_ofNat_of_lt'
  exact Nat.lt_of_le_of_lt (Nat.min_le_right _ _) (by decide)

/-- The milliseconds of a span within an accepted limit are at most those of the limit. -/
theorem units_le {limit : UInt64} (accepted : limit.toNat ≤ Settings.maxTimeout)
    (h : s.toNanos ≤ (ofSeconds limit).toNanos) : s.units ≤ 1000 * limit.toNat * one := by
  have bits : limit.toNat < 2 ^ 32 := Nat.lt_of_le_of_lt accepted (by decide)
  rw [toNanos_ofSeconds] at h
  generalize limit.toNat = seconds at h bits
  have thousands : seconds * 1000000000 = 1000 * seconds * 1000000 := by omega
  have nanos : nearest (s.toNanos * one) 1 ≤ seconds * 1000000000 * one := by
    have factors : seconds * 1000000000 = seconds * 1953125 * 2 ^ 9 :=
      (Nat.mul_assoc seconds 1953125 (2 ^ 9)).symm
    rw [factors] at h ⊢
    apply nearest_le_of_exact (exact_whole (by omega) 9) Nat.one_pos
    rw [Nat.mul_one]
    exact Nat.mul_le_mul_right one h
  have whole : Exact (1000 * seconds * one) := by
    simpa using exact_whole (a := 1000 * seconds) (by omega) 0
  unfold units
  apply nearest_le_of_exact whole (by decide)
  rwa [thousands, Nat.mul_right_comm] at nanos

/-- What is reported of a measured span is a finite number. -/
theorem clampedMillis_eq (elapsed limit : Span) :
    elapsed.clampedMillis limit = .finite false (elapsed.shorter limit).units :=
  millis_eq _

theorem units_shorter_mono {limit : Span} (h : s.toNanos ≤ t.toNanos) :
    (s.shorter limit).units ≤ (t.shorter limit).units := by
  apply units_mono
  rw [toNanos_shorter, toNanos_shorter]
  omega

theorem units_shorter_le {limit : UInt64} (accepted : limit.toNat ≤ Settings.maxTimeout)
    (elapsed : Span) : (elapsed.shorter (ofSeconds limit)).units ≤ 1000 * limit.toNat * one := by
  apply units_le accepted
  rw [toNanos_shorter]
  exact Nat.min_le_right _ _

end FunctionHost.Time.Span
