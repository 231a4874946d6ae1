-- SUMMARY: Deadlines are exact up to the end of the calendar, and the end itself from there on.
import FunctionHost.Exchange.Basic
import FunctionHost.Proofs.Settings.Document
import FunctionHost.Time.Calendar

/-! # Deadlines

Of the three limits on the way to a deadline only the last one ever decides. Milliseconds that take
more than 63 bits, or make a lapse that is too long, would lead beyond the end of the calendar from
any point in time within it. So whichever step has no result, the exact deadline lies behind the
end, and the end is what is taken. In whole milliseconds this is the smaller one of two numbers. -/

namespace FunctionHost

namespace Time

/-! ## Single steps -/

theorem signed?_eq_some_iff {n : UInt64} {m : Int64} : signed? n = some m ↔ m.toInt = n.toNat := by
  unfold signed?
  split
  · next fits =>
    have same : (Int64.ofNat n.toNat).toInt = n.toNat := Int64.toInt_ofNat_of_lt fits
    rw [Option.some.injEq, ← Int64.toInt_inj, same]
    exact eq_comm
  · next large =>
    apply iff_of_false nofun
    intro same
    have bound := m.toInt_lt
    unfold Instant.tooManyMillis at large
    omega

namespace Lapse

variable {millis : Int64} {lapse : Lapse}

theorem ofMillis?_eq_some_iff :
    ofMillis? millis = some lapse ↔ lapse.nanos = millis.toInt * 1000000 := by
  unfold ofMillis?
  split
  · rw [Option.some.injEq, eq_comm, Lapse.mk.injEq]
  · next long =>
    apply iff_of_false nofun
    intro same
    exact long (same ▸ lapse.bounded)

/-- No number of milliseconds from zero on is too long for a lapse. -/
theorem exists_ofMillis? (forwards : 0 ≤ millis.toInt) :
    ∃ lapse, ofMillis? millis = some lapse := by
  have bound := millis.toInt_lt
  have bounded : (millis.toInt * 1000000).natAbs ≤ longestLapse := by
    unfold longestLapse
    omega
  exact ⟨⟨_, bounded⟩, dif_pos bounded⟩

end Lapse

namespace Instant

variable {now t due : Instant} {lapse : Lapse} {timeout : UInt64}

theorem shifted?_eq_some_iff :
    t.shifted? lapse = some due ↔ due.nanos = t.nanos + lapse.nanos ∧ due.InCalendar := by
  unfold shifted?
  rw [Option.ite_none_right_eq_some, Option.some.injEq]
  constructor
  · rintro ⟨within, rfl⟩
    exact ⟨rfl, within⟩
  · rintro ⟨same, within⟩
    obtain rfl : due = ⟨t.nanos + lapse.nanos⟩ := congrArg Instant.mk same
    exact ⟨within, rfl⟩

/-! ## The end of the calendar -/

/-- A point in time that can be reached within the calendar is not too many milliseconds away. -/
theorem lt_tooManyMillis (present : now.InCalendar)
    (early : now.nanos + timeout.toNat * 1000000 ≤ latest.nanos) :
    timeout.toNat < tooManyMillis := by
  have first := present.1
  unfold earliest at first
  unfold latest at early
  unfold tooManyMillis
  dsimp only at first early
  omega

/-- The steps have a result exactly if the deadline is a point in time of the calendar, and it is
    the deadline then. -/
theorem due?_eq_some_iff (present : now.InCalendar) :
    now.due? timeout = some due ↔
      due.nanos = now.nanos + timeout.toNat * 1000000 ∧ due.InCalendar := by
  unfold due?
  simp only [Option.bind_eq_bind, Option.bind_eq_some_iff, signed?_eq_some_iff,
    Lapse.ofMillis?_eq_some_iff, shifted?_eq_some_iff]
  constructor
  · rintro ⟨millis, same, lapse, long, reached, within⟩
    rw [reached, long, same]
    exact ⟨rfl, within⟩
  · rintro ⟨reached, within⟩
    -- The first two steps have a result, since otherwise the third one would lead too far.
    have fits := lt_tooManyMillis present (reached ▸ within.2)
    have same : (Int64.ofNat timeout.toNat).toInt = timeout.toNat := Int64.toInt_ofNat_of_lt fits
    obtain ⟨lapse, made⟩ := Lapse.exists_ofMillis? (same ▸ Int.natCast_nonneg timeout.toNat)
    have long := Lapse.ofMillis?_eq_some_iff.1 made
    refine ⟨_, same, lapse, long, ?_, within⟩
    rw [reached, long, same]

theorem after_of_le (present : now.InCalendar)
    (early : now.nanos + timeout.toNat * 1000000 ≤ latest.nanos) :
    now.after timeout = ⟨now.nanos + timeout.toNat * 1000000⟩ :=
  if_pos ⟨lt_tooManyMillis present early, early⟩

theorem after_of_lt (late : latest.nanos < now.nanos + timeout.toNat * 1000000) :
    now.after timeout = latest :=
  if_neg fun early => Int.not_le.2 late early.2

/-- A deadline is what the steps give, or the end of the calendar if they have no result. -/
theorem after_eq (present : now.InCalendar) (timeout : UInt64) :
    now.after timeout = (now.due? timeout).getD latest := by
  cases reached : now.due? timeout with
  | none =>
    apply after_of_lt
    apply Int.not_le.1
    intro early
    have within : (⟨now.nanos + timeout.toNat * 1000000⟩ : Instant).InCalendar :=
      ⟨Int.le_trans present.1 (by dsimp only; omega), early⟩
    rw [(due?_eq_some_iff present).2 ⟨rfl, within⟩] at reached
    cases reached
  | some due =>
    obtain ⟨same, within⟩ := (due?_eq_some_iff present).1 reached
    rw [after_of_le present (same ▸ within.2), ← same]
    rfl

theorem nanos_after (present : now.InCalendar) (timeout : UInt64) :
    (now.after timeout).nanos = min (now.nanos + timeout.toNat * 1000000) latest.nanos := by
  rcases lt_or_ge latest.nanos (now.nanos + timeout.toNat * 1000000) with late | early
  · rw [after_of_lt late, Int.min_eq_right (Int.le_of_lt late)]
  · rw [after_of_le present early, Int.min_eq_left early]

theorem le_nanos_after (present : now.InCalendar) (timeout : UInt64) :
    now.nanos ≤ (now.after timeout).nanos := by
  have last := present.2
  rw [nanos_after present]
  omega

theorem inCalendar_after (present : now.InCalendar) (timeout : UInt64) :
    (now.after timeout).InCalendar := by
  refine ⟨Int.le_trans present.1 (le_nanos_after present timeout), ?_⟩
  rw [nanos_after present]
  exact Int.min_le_right _ _

/-! ## Whole milliseconds -/

theorem millis_eq (t : Instant) : t.millis = t.nanos / 1000000 :=
  Int.fdiv_eq_ediv_of_nonneg _ (by decide)

theorem millis_mono (h : t.nanos ≤ due.nanos) : t.millis ≤ due.millis := by
  rw [millis_eq, millis_eq]
  exact Int.ediv_le_ediv (by decide) h

/-- The number of milliseconds of a point in time of the calendar fits into 64 bits. -/
theorem toInt_stamp (within : t.InCalendar) : t.stamp.toInt = t.millis := by
  have first := millis_mono within.1
  have last := millis_mono within.2
  apply Int64.toInt_ofInt_of_le
  · exact Int.le_trans (by decide) first
  · exact Int.lt_of_le_of_lt last (by decide)

/-- The calendar ends with a whole millisecond, so rounding down does not show when it was
    passed. -/
theorem millis_after (present : now.InCalendar) (timeout : UInt64) :
    (now.after timeout).millis = min (now.millis + timeout.toNat) latest.millis := by
  rw [millis_eq, millis_eq, millis_eq, nanos_after present]
  unfold latest
  dsimp only
  omega

end Instant

end Time

/-! ## Deadlines of invocations -/

/-- Settings from an environment have a time limit of whole seconds, which is as many thousands of
    milliseconds. -/
theorem Settings.timeoutMillis_of_load {env : Environment} {s : Settings} (h : load env = .ok s) :
    s.timeoutMillis.toNat = 1000 * s.timeoutSeconds.toNat := by
  obtain ⟨seconds, accepted, timeout⟩ := exists_timeout_of_load h
  have bits : seconds.toNat < 2 ^ 32 := Nat.lt_of_le_of_lt accepted (by decide)
  have whole : s.timeoutSeconds = seconds := congrArg Time.Span.seconds timeout
  rw [whole, timeoutMillis, timeout, Time.Span.toNat_toMillis, Time.Span.toNanos_ofSeconds,
    UInt64.size]
  omega

namespace Queued

open Time (Instant)
open Time.Instant (after_eq inCalendar_after le_nanos_after millis_after nanos_after toInt_stamp)

/-- A deadline is the point in time a number of milliseconds from now, or the end of the calendar if
    that comes first. It is what the checked steps lead to, its milliseconds fit into 64 bits, and
    it is never before now. -/
structure Reckoned (now : Instant) (timeout : UInt64) (deadline : Instant) : Prop where
  checked : deadline = (now.due? timeout).getD .latest
  within : deadline.InCalendar
  fits : deadline.stamp.toInt = deadline.millis
  nanos : deadline.nanos = min (now.nanos + timeout.toNat * 1000000) Instant.latest.nanos
  millis : deadline.millis = min (now.millis + timeout.toNat) 8210266876799999
  notBefore : now.nanos ≤ deadline.nanos ∧ now.millis ≤ deadline.millis

variable {now : Instant}

theorem reckoned_after (present : now.InCalendar) (timeout : UInt64) :
    Reckoned now timeout (now.after timeout) where
  checked := after_eq present timeout
  within := inCalendar_after present timeout
  fits := toInt_stamp (inCalendar_after present timeout)
  nanos := nanos_after present timeout
  millis := millis_after present timeout
  notBefore := by
    have later := le_nanos_after present timeout
    exact ⟨later, Time.Instant.millis_mono later⟩

/-- The deadline with which an invocation is queued at any point in time of the calendar. Reckoned
    for any number of milliseconds, it is the smaller one of the exact deadline and the end of the
    calendar. More milliseconds never lead to an earlier one. And under settings from an
    environment it is exactly their seconds away, unless the calendar ends before. -/
theorem deadline_saturates (present : now.InCalendar) (invocation : Invocation) :
    (∀ timeout, Reckoned now timeout (ofInvocation invocation now timeout).deadline) ∧
    (∀ shorter longer : UInt64, shorter ≤ longer →
      (ofInvocation invocation now shorter).deadline.stamp ≤
        (ofInvocation invocation now longer).deadline.stamp) ∧
    ∀ (env : Environment) (settings : Settings), Settings.load env = .ok settings →
      ((ofInvocation invocation now settings.timeoutMillis).deadline.stamp.toInt =
          now.millis + 1000 * settings.timeoutSeconds.toNat ↔
        now.millis + 1000 * settings.timeoutSeconds.toNat ≤ 8210266876799999) := by
  have stamped (timeout : UInt64) :
      (now.after timeout).stamp.toInt = min (now.millis + timeout.toNat) 8210266876799999 := by
    have reckoned := reckoned_after present timeout
    rw [reckoned.fits, reckoned.millis]
  refine ⟨reckoned_after present, ?_, ?_⟩
  · intro shorter longer h
    rw [UInt64.le_iff_toNat_le] at h
    rw [Int64.le_iff_toInt_le, ofInvocation, ofInvocation, stamped, stamped]
    omega
  · intro env settings loaded
    have thousands := Settings.timeoutMillis_of_load loaded
    rw [ofInvocation, stamped, thousands]
    omega

/-- A point in time in the middle of a millisecond, just before the last three seconds of the
    calendar begin. -/
def lastSeconds : Instant :=
  ⟨8210266876796999500000⟩

/-- An environment with a time limit of three seconds. -/
def threeSeconds : Environment :=
  .ofEntries ["AWS_LAMBDA_FUNCTION_TIMEOUT=3"]

/-- The settings that it leads to. -/
def threeSecondsSettings : Settings :=
  { Settings.default with timeout := .ofSeconds 3 }

/-- Just before the last seconds of the calendar, deadlines for the last number of milliseconds that
    it has room for, for the next one, and for the first and the last one of more than 63 bits. -/
theorem deadline_saturates_lastSeconds :
    lastSeconds.InCalendar ∧
    Reckoned lastSeconds 3000 ⟨8210266876799999500000⟩ ∧
    Reckoned lastSeconds 3001 .latest ∧
    Reckoned lastSeconds 9223372036854775808 .latest ∧
    Reckoned lastSeconds 18446744073709551615 .latest ∧
    (lastSeconds.after 3001).stamp ≤ (lastSeconds.after 9223372036854775808).stamp ∧
    Settings.load threeSeconds = .ok threeSecondsSettings ∧
    (lastSeconds.after threeSecondsSettings.timeoutMillis).stamp.toInt =
      lastSeconds.millis + 1000 * 3 := by
  have present : lastSeconds.InCalendar := by decide
  have loaded : Settings.load threeSeconds = .ok threeSecondsSettings := by decide +kernel
  obtain ⟨reckoned, ordered, seconds⟩ := deadline_saturates present ⟨"a", "arn", "", "", []⟩
  exact ⟨present, reckoned 3000, reckoned 3001, reckoned 9223372036854775808,
    reckoned 18446744073709551615, ordered 3001 9223372036854775808 (by decide), loaded,
    (seconds _ _ loaded).2 (by decide)⟩

end Queued

end FunctionHost
