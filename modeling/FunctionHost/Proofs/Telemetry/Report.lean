-- SUMMARY: The durations in a report agree with each other and stay within the time limit.
import FunctionHost.Proofs.Telemetry.Sink
import FunctionHost.Proofs.Time.Span
import FunctionHost.Startup.Plan

/-! # Durations in reports

A report shows how long an invocation took, to two places, and the whole milliseconds that are
billed for it. Both are read off the text of the line here, as rational numbers. Under a limit of
whole seconds that is accepted, neither the roundings on the way to milliseconds nor the rounding up
ever lead above the limit. -/

namespace FunctionHost.Telemetry

open Number (Binary64 Shows)
open Number.Binary64 (ceiling scaled)
open Time (Span)

/-- Texts show a number of milliseconds: the nearest number with two places, and the number rounded
    up to whole ones. -/
structure ShowsDuration (millis : ℚ) (duration billed : String) (shown : ℚ) (whole : ℕ) : Prop where
  duration : Shows 2 duration shown
  billed : Shows 0 billed whole
  nearest : |shown - millis| ≤ 1 / 200
  roundedUp : whole = ⌈millis⌉₊

/-- The lines at the end of an invocation show durations that agree with each other, and no more is
    billed than a limit in seconds. -/
def ClosesWithin (limit : UInt64) (id : String) (init : Option Binary64) (memory : String)
    (elapsed : Span) : Prop :=
  ∃ (millis shown : ℚ) (whole : ℕ) (duration billed : String),
    (elapsed.clampedMillis (.ofSeconds limit)).rational? = some millis ∧
    (closing id init memory elapsed (.ofSeconds limit)).map Line.render =
      closingTexts id init duration billed memory ∧
    ShowsDuration millis duration billed shown whole ∧
    shown ≤ whole ∧ whole ≤ shown + 1 ∧ whole ≤ 1000 * limit.toNat

/-- The duration of a start is shown as no more than a limit in seconds. -/
def StartsWithin (limit : UInt64) (report : StartReport) : Prop :=
  ∃ (text : String) (shown : ℚ),
    initSegment (some report.duration) = "Init Duration: " ++ text ++ " ms\t" ∧
    Shows 2 text shown ∧ shown ≤ 1000 * limit.toNat

theorem showsDuration (units : Nat) :
    ShowsDuration (units / Binary64.one) ((Binary64.finite false units).fixed 2)
      ((Binary64.finite false units).ceil.fixed 0) (scaled 2 units / 10 ^ 2) (ceiling units) where
  duration := Binary64.shows_fixed 2 units
  billed := Binary64.shows_ceiling units
  nearest := by
    have half : (1 : ℚ) / (2 * 10 ^ 2) = 1 / 200 := by norm_num
    rw [← half]
    exact Binary64.scaled_near 2 units
  roundedUp := Binary64.ceiling_eq units

/-- What is shown of a number of milliseconds is less than one below what is billed. -/
theorem shown_le_billed (units : Nat) :
    (scaled 2 units / 10 ^ 2 : ℚ) ≤ ceiling units ∧
      (ceiling units : ℚ) ≤ scaled 2 units / 10 ^ 2 + 1 := by
  obtain ⟨below, above⟩ := Binary64.scaled_ceiling 2 units
  have below : (scaled 2 units : ℚ) ≤ ceiling units * 10 ^ 2 := by exact_mod_cast below
  have above : (ceiling units * 10 ^ 2 : ℚ) ≤ scaled 2 units + 10 ^ 2 := by exact_mod_cast above
  constructor <;> linarith

theorem shown_le {units limit : Nat} (h : units ≤ limit * Binary64.one) :
    (scaled 2 units / 10 ^ 2 : ℚ) ≤ limit := by
  have below : (scaled 2 units : ℚ) ≤ limit * 10 ^ 2 := by exact_mod_cast Binary64.scaled_le h
  linarith

/-- The durations in a report, and that of a start, under a limit of whole seconds that is accepted.

    What is billed is at least the duration that is shown, at most a millisecond more than it, and
    never more than the limit. A longer time never leads to fewer milliseconds. And the duration of
    a start that ran under the limit is never shown as more than the limit, either. -/
theorem reported_within_limit {limit : UInt64} (accepted : limit.toNat ≤ Settings.maxTimeout) :
    (∀ (id : String) (init : Option Binary64) (memory : String) (elapsed : Span),
      ClosesWithin limit id init memory elapsed) ∧
    (∀ sooner later ceiling : Span, sooner.toNanos ≤ later.toNanos →
      (sooner.clampedMillis ceiling).AtMost (later.clampedMillis ceiling)) ∧
    ∀ (plan : Plan) (failure : Option String) (elapsed : Span),
      plan.settings.timeout = .ofSeconds limit →
      StartsWithin limit (plan.report failure elapsed) := by
  refine ⟨?_, ?_, ?_⟩
  · intro id init memory elapsed
    have within := Span.units_shorter_le accepted elapsed
    rw [ClosesWithin, closing, Span.clampedMillis_eq]
    generalize (elapsed.shorter (.ofSeconds limit)).units = units at within
    obtain ⟨below, above⟩ := shown_le_billed units
    exact ⟨_, _, _, _, _, Binary64.rational?_finite units, rfl, showsDuration units, below, above,
      Binary64.ceiling_le_iff.2 within⟩
  · intro sooner later ceiling h
    rw [Span.clampedMillis_eq, Span.clampedMillis_eq]
    exact Binary64.atMost_of_le (Span.units_shorter_mono h)
  · intro plan failure elapsed h
    have within := Span.units_shorter_le accepted elapsed
    rw [Plan.report, h, Span.clampedMillis_eq]
    refine ⟨_, _, rfl, Binary64.shows_fixed 2 _, ?_⟩
    exact_mod_cast shown_le within

/-- A plan with the longest limit that is accepted. -/
def longestPlan : Plan where
  settings := { Settings.default with timeout := .ofSeconds 4294967295 }
  environment := .default
  bootstrap := .external

/-- Spans that end a nanosecond before the longest limit and long after it. -/
theorem reported_within_limit_longest :
    ClosesWithin 4294967295 "a" none "128" ⟨4294967294, 999999999⟩ ∧
    ((Span.mk 4294967294 999999999).clampedMillis (.ofSeconds 4294967295)).AtMost
      ((Span.ofSeconds 18446744073709551615).clampedMillis (.ofSeconds 4294967295)) ∧
    StartsWithin 4294967295 (longestPlan.report none (.ofSeconds 18446744073709551615)) := by
  have accepted : (4294967295 : UInt64).toNat ≤ Settings.maxTimeout := by decide
  obtain ⟨closes, keepsOrder, starts⟩ := reported_within_limit accepted
  exact ⟨closes _ _ _ _, keepsOrder _ _ _ (by decide), starts longestPlan none _ rfl⟩

end FunctionHost.Telemetry
