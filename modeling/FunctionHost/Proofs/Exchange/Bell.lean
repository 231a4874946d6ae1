-- SUMMARY: When the bell reaches those who sleep at it, and how a ring can be lost.
import FunctionHost.Proofs.Exchange.Line
import FunctionHost.Proofs.Exchange.Queue

/-! # Rings of the bell

Everybody who queues an invocation rings, but the bell remembers a single ring. As long as at most
one poller is about to sleep this is enough. If two of them have found the queue empty and are about
to sleep, two rings may come before either of them sleeps. The second of these rings is lost: the
first poller stays awake and takes one invocation, the second one sleeps, and the other invocation
stands in the line. `LosesRing` says when a ring is lost. Without a lost ring whoever sleeps has
nothing to fetch that somebody who is awake would not fetch, and after a lost ring two of the pollers
can go to sleep so that one of them has. -/

namespace FunctionHost

/-! ## The bell -/

/-- Nobody sleeps at a bell that remembers a ring. -/
def Doorbell.Attended (b : Doorbell) : Prop :=
  b.remembered = true → b.asleep = []

/-- What holds of a bell while a number of invocations stand in the line, some senders have yet to
    ring, and some pollers are about to sleep. A poller that sleeps, or will sleep because no ring is
    remembered, leaves no invocation behind; one more may be left to the ring that is remembered. -/
structure Doorbell.Covers (b : Doorbell) (line unrung turning : Nat) : Prop where
  sleeper : b.asleep ≠ [] → line ≤ b.woken.length + unrung
  sleepy : b.remembered = false → 0 < turning → line ≤ b.woken.length + unrung
  crowd : 2 ≤ turning → line ≤ b.woken.length + unrung + 1

namespace Doorbell

variable {b : Doorbell} {line unrung turning : Nat} {p : Poller}

theorem ring_of_nil (h : b.asleep = []) : b.ring = { b with remembered := true } := by
  simp [ring, h]

theorem ring_of_cons {rest : List Poller} (h : b.asleep = p :: rest) :
    b.ring = { b with asleep := rest, woken := b.woken ++ [p] } := by
  simp [ring, h]

theorem leave_of_woken (h : p ∈ b.woken) : b.leave p = (b.look p).ring := by
  simp [leave, h]

theorem leave_of_not_woken (h : p ∉ b.woken) :
    b.leave p = { b with asleep := b.asleep.erase p } := by
  simp [leave, h]

theorem length_look (woken : p ∈ b.woken) : (b.look p).woken.length + 1 = b.woken.length := by
  have hpos := List.length_pos_of_mem woken
  rw [look, List.length_erase_of_mem woken]
  omega

/-! ### Who sleeps while a ring is remembered -/

theorem Attended.silent : silent.Attended :=
  fun _ => rfl

theorem Attended.ring (h : b.Attended) : b.ring.Attended := by
  cases hasleep : b.asleep with
  | nil =>
    rw [ring_of_nil hasleep]
    exact fun _ => hasleep
  | cons p rest =>
    rw [ring_of_cons hasleep]
    intro hremembered
    simpa [hasleep] using h hremembered

theorem attended_sleep (b : Doorbell) (p : Poller) : (b.sleep p).Attended := by
  rw [Doorbell.sleep]
  split
  · exact fun remembered => by simp at remembered
  · next unremembered => exact fun remembered => absurd remembered unremembered

theorem Attended.leave (h : b.Attended) (p : Poller) : (b.leave p).Attended := by
  by_cases hwoken : p ∈ b.woken
  · rw [leave_of_woken hwoken]
    exact Attended.ring h
  · rw [leave_of_not_woken hwoken]
    intro hremembered
    simp [h hremembered]

/-! ### What a bell covers -/

namespace Covers

theorem mono (h : b.Covers line unrung turning) {line' unrung' turning' : Nat}
    (hline : line' + unrung ≤ line + unrung') (hturning : turning' ≤ turning) :
    b.Covers line' unrung' turning' where
  sleeper hasleep := by
    have := h.sleeper hasleep
    omega
  sleepy hremembered hpos := by
    have := h.sleepy hremembered (by omega)
    omega
  crowd htwo := by
    have := h.crowd (by omega)
    omega

/-- With an empty line nothing is left behind. -/
theorem of_empty : b.Covers 0 unrung turning where
  sleeper _ := Nat.zero_le _
  sleepy _ _ := Nat.zero_le _
  crowd _ := Nat.zero_le _

/-- A ring reaches one who sleeps, or is remembered; only one more that is to be remembered must not
    matter. -/
theorem ring (h : b.Covers line (unrung + 1) turning)
    (kept : b.remembered = true → 2 ≤ turning → line ≤ b.woken.length + unrung + 1) :
    b.ring.Covers line unrung turning := by
  cases hasleep : b.asleep with
  | nil =>
    rw [ring_of_nil hasleep]
    refine ⟨fun hsleeps => absurd hasleep hsleeps, by simp, fun htwo => ?_⟩
    cases hremembered : b.remembered with
    | true => exact kept hremembered htwo
    | false => exact h.sleepy hremembered (by omega)
  | cons p rest =>
    have hcovered : line ≤ b.woken.length + (unrung + 1) := h.sleeper (by simp [hasleep])
    rw [ring_of_cons hasleep]
    constructor
    all_goals
      intros
      simp only [List.length_append, List.length_singleton]
      omega

/-- One who wants to sleep uses up the ring that is remembered. -/
theorem sleep (h : b.Covers line unrung (turning + 1)) (attended : b.Attended) (p : Poller) :
    (b.sleep p).Covers line unrung turning := by
  cases hremembered : b.remembered with
  | true =>
    have hsleep : b.sleep p = { b with remembered := false, woken := b.woken ++ [p] } := by
      simp [Doorbell.sleep, hremembered]
    refine ⟨by simp [hsleep, attended hremembered], ?_, ?_⟩
    all_goals
      intros
      have := h.crowd (by omega)
      simp only [hsleep, List.length_append, List.length_singleton]
      omega
  | false =>
    have hsleep : b.sleep p = { b with asleep := b.asleep ++ [p] } := by
      simp [Doorbell.sleep, hremembered]
    have hcovered : line ≤ b.woken.length + unrung := h.sleepy hremembered (by omega)
    constructor
    all_goals
      intros
      simp only [hsleep]
      omega

/-- One who was woken and no longer looks for an invocation leaves somebody to ring in their place. -/
theorem passOn (h : b.Covers line unrung turning) (woken : p ∈ b.woken) :
    (b.look p).Covers line (unrung + 1) turning := by
  have hlength := length_look woken
  refine ⟨?_, ?_, ?_⟩
  · intro hasleep
    have := h.sleeper hasleep
    omega
  · intro hremembered hpos
    have := h.sleepy hremembered hpos
    omega
  · intro htwo
    have := h.crowd htwo
    omega

/-- One who sleeps may go away. -/
theorem forsake (h : b.Covers line unrung turning) (p : Poller) :
    ({ b with asleep := b.asleep.erase p } : Doorbell).Covers line unrung turning where
  sleeper hasleep := h.sleeper fun hnil => hasleep (by simp [hnil])
  sleepy := h.sleepy
  crowd := h.crowd

end Covers

end Doorbell

namespace Traffic

open Exchange

/-! ## Counting -/

/-- How many senders have queued their invocation and not rung yet. -/
def unrung (t : Traffic) : Nat :=
  t.senders.countP fun s => s.stage = .queued

/-- How many pollers have found the queue empty and do not sleep yet. -/
def turning (t : Traffic) : Nat :=
  t.pollers.countP fun stage => stage = .turning

theorem countP_set {α : Type} (f : α → Bool) {l : List α} {i : Nat} {a : α} (h : l[i]? = some a)
    (b : α) : (l.set i b).countP f + (f a).toNat = l.countP f + (f b).toNat := by
  induction l generalizing i with
  | nil => simp at h
  | cons c rest ih =>
    cases i with
    | zero =>
      obtain rfl : c = a := by simpa using h
      simp only [List.set_cons_zero, List.countP_cons]
      cases f b <;> cases f c <;> simp
    | succ i =>
      have := ih (by simpa using h)
      simp only [List.set_cons_succ, List.countP_cons]
      omega

theorem unrung_step (t : Traffic) (e : Event) :
    (t.step e).unrung + (t.ringing e).length = t.unrung + (t.joining e).length := by
  rw [unrung, unrung]
  cases advance_step t e with
  | stays _ joins silent senders => rw [senders, joins, silent, List.length_nil, List.length_nil]
  | comes q stage event stage_ne senders =>
    rw [senders, event]
    simp [stage_ne, ringing, joining]
  | queues sender q event stands senders =>
    have hset := countP_set (fun s => s.stage = .queued) stands ⟨q, .queued⟩
    rw [senders, event]
    simpa [ringing, joining, stands] using hset
  | rings sender q event stands senders =>
    have hset := countP_set (fun s => s.stage = .queued) stands ⟨q, .rung⟩
    rw [senders, event]
    simpa [ringing, joining, stands] using hset

/-- A poller that moves on is no longer about to sleep, or now is. -/
theorem turning_of_set {t t' : Traffic} {p : Poller} {stage next : Asking}
    (stands : t.pollers[p]? = some stage) (pollers : t'.pollers = t.pollers.set p next) :
    t'.turning + (decide (stage = .turning)).toNat
      = t.turning + (decide (next = .turning)).toNat := by
  rw [turning, pollers]
  exact countP_set (fun stage => stage = .turning) stands next

theorem turning_sleeps {t : Traffic} {p : Poller} (stands : t.pollers[p]? = some .turning) :
    (t.step (.sleeps p)).turning + 1 = t.turning := by
  simpa using turning_of_set stands (congrArg pollers (step_sleeps_of_turning stands))

theorem length_queue_step (t : Traffic) (e : Event) :
    (t.step e).exchange.queue.length + (t.handing e).length
      ≤ t.exchange.queue.length + (t.joining e).length := by
  cases flow_step t e with
  | keeps joins hands queue => simp [joins, hands, queue]
  | joins sender q _ _ joins hands queue => simp [joins, hands, queue]
  | hands p q _ _ joins hands queue => simp [joins, hands, queue]
  | withdraws id _ joins hands queue =>
    simpa [joins, hands, queue] using List.length_filter_le _ _
  | clears exit r _ _ _ joins hands queue => simp [joins, hands, queue]

/-- Where nobody queues an invocation or rings, the line does not grow. -/
theorem counts_of_still {t : Traffic} {e : Event} (joins : t.joining e = [])
    (silent : t.ringing e = []) :
    (t.step e).unrung = t.unrung ∧
      (t.step e).exchange.queue.length + (t.handing e).length ≤ t.exchange.queue.length := by
  have hunrung := unrung_step t e
  have hqueue := length_queue_step t e
  rw [joins, silent] at hunrung
  rw [joins] at hqueue
  exact ⟨hunrung, hqueue⟩

/-! ## Who sleeps while a ring is remembered -/

theorem attended_step {t : Traffic} (h : t.exchange.bell.Attended) (e : Event) :
    (t.step e).exchange.bell.Attended := by
  cases visit_step t e with
  | stays _ _ _ bell | asks _ _ bell => exact bell ▸ h
  | rings _ _ _ _ _ bell => exact bell ▸ h.ring
  | turns p _ _ _ _ _ bell | takes p _ _ _ _ _ bell =>
    rw [bell, bellSeen]
    split
    · exact h
    · exact h
  | sleeps p _ _ _ bell => exact bell ▸ Doorbell.attended_sleep _ p
  | leaves p _ _ _ _ _ bell =>
    rw [bell]
    split
    · exact h.leave p
    · exact h

theorem attended_run {t : Traffic} (h : t.exchange.bell.Attended) (events : List Event) :
    (t.run events).exchange.bell.Attended := by
  induction events generalizing t with
  | nil => exact h
  | cons e rest ih => exact ih (attended_step h e)

/-! ## Lost rings -/

/-- An event rings the bell: a sender rings, or a poller that was woken goes away. -/
inductive Rings (t : Traffic) : Event → Prop where
  | sends (sender : Ticket) (q : Queued) (stands : t.senders[sender]? = some ⟨q, .queued⟩) :
      t.Rings (.rings sender)
  | leaves (p : Poller) (stands : t.pollers[p]? = some .resting)
      (woken : p ∈ t.exchange.bell.woken) : t.Rings (.leaves p)

/-- An event rings the bell although a ring is remembered already. Two pollers or more are about to
    sleep, and more invocations stand in the line than there are pollers that were woken and senders
    that have yet to ring. -/
structure LosesRing (t : Traffic) (e : Event) : Prop where
  rings : t.Rings e
  remembered : t.exchange.bell.remembered = true
  turning : 2 ≤ t.turning
  short : t.exchange.bell.woken.length + t.unrung < t.exchange.queue.length

theorem short_of_not_losesRing {t : Traffic} {e : Event} (kept : ¬ t.LosesRing e) (rings : t.Rings e)
    (remembered : t.exchange.bell.remembered = true) (turning : 2 ≤ t.turning) :
    t.exchange.queue.length ≤ t.exchange.bell.woken.length + t.unrung :=
  Nat.le_of_not_lt fun short => kept ⟨rings, remembered, turning, short⟩

/-- An invocation stands in the line while a poller sleeps, and nothing that is under way wakes it: no
    ring is remembered, nobody that was woken has yet to look, and no sender has yet to ring. -/
structure Stranded (t : Traffic) : Prop where
  queue : t.exchange.queue ≠ []
  asleep : t.exchange.bell.asleep ≠ []
  remembered : t.exchange.bell.remembered = false
  woken : t.exchange.bell.woken = []
  unrung : t.unrung = 0

/-! ## Runs without lost rings -/

/-- Whoever sleeps leaves nothing behind. -/
def Covered (t : Traffic) : Prop :=
  t.exchange.bell.Covers t.exchange.queue.length t.unrung t.turning

theorem Covered.fresh : fresh.Covered :=
  .of_empty

section Step

variable {t : Traffic} {e : Event} {p : Poller}

theorem Covered.rings {sender : Ticket} {q : Queued} (h : t.Covered)
    (stands : t.senders[sender]? = some ⟨q, .queued⟩) (kept : ¬ t.LosesRing (.rings sender)) :
    (t.step (.rings sender)).Covered := by
  have hunrung := unrung_step t (.rings sender)
  have hqueue := length_queue_step t (.rings sender)
  have hstep := step_rings_of_queued stands
  have hturning : (t.step (.rings sender)).turning = t.turning := by
    rw [hstep]
    rfl
  have hbell : (t.step (.rings sender)).exchange.bell = t.exchange.bell.ring := by
    rw [hstep]
    rfl
  simp only [ringing, joining, stands, List.length_singleton, List.length_nil] at hunrung
  simp only [joining, List.length_nil] at hqueue
  rw [Covered, hbell, hturning]
  have hbefore : t.exchange.bell.Covers (t.step (.rings sender)).exchange.queue.length
      ((t.step (.rings sender)).unrung + 1) t.turning := h.mono (by omega) (Nat.le_refl _)
  refine hbefore.ring ?_
  intro remembered htwo
  have hshort := short_of_not_losesRing kept (.sends sender q stands) remembered htwo
  omega

theorem Covered.takes {q : Queued} (h : t.Covered) (looks : t.Looks p)
    (hands : t.handing (.looks p) = [(p, q)])
    (pollers : (t.step (.looks p)).pollers = t.pollers.set p (.served q))
    (bell : (t.step (.looks p)).exchange.bell = t.bellSeen p) : (t.step (.looks p)).Covered := by
  obtain ⟨hunrung, hqueue⟩ := counts_of_still (t := t) (e := .looks p) rfl rfl
  rw [hands, List.length_singleton] at hqueue
  rw [Covered, bell, hunrung]
  have hturning {stage : Asking} (stands : t.pollers[p]? = some stage) (other : stage ≠ .turning) :
      (t.step (.looks p)).turning = t.turning := by
    simpa [other] using turning_of_set stands pollers
  rcases looks with stands | ⟨stands, woken⟩
  · have hseen : t.bellSeen p = t.exchange.bell := by simp [bellSeen, stands]
    rw [hseen]
    exact h.mono (by omega) (Nat.le_of_eq (hturning stands (by simp)))
  · have hseen : t.bellSeen p = t.exchange.bell.look p := by simp [bellSeen, stands]
    rw [hseen]
    exact (h.passOn woken).mono (by omega) (Nat.le_of_eq (hturning stands (by simp)))

theorem Covered.leaves {stage : Asking} (h : t.Covered) (stands : t.pollers[p]? = some stage)
    (pollers : (t.step (.leaves p)).pollers = t.pollers.set p .gone)
    (bell : (t.step (.leaves p)).exchange.bell =
      if stage = .resting then t.exchange.bell.leave p else t.exchange.bell)
    (kept : ¬ t.LosesRing (.leaves p)) : (t.step (.leaves p)).Covered := by
  obtain ⟨hunrung, hqueue⟩ := counts_of_still (t := t) (e := .leaves p) rfl rfl
  have hturning : (t.step (.leaves p)).turning ≤ t.turning := by
    have hmoves := turning_of_set stands pollers
    have hgone : (decide (Asking.gone = .turning)).toNat = 0 := rfl
    omega
  have hbefore : t.exchange.bell.Covers (t.step (.leaves p)).exchange.queue.length t.unrung
      (t.step (.leaves p)).turning := h.mono (by omega) hturning
  rw [Covered, bell, hunrung]
  split
  · next resting =>
    subst resting
    by_cases woken : p ∈ t.exchange.bell.woken
    · rw [Doorbell.leave_of_woken woken]
      refine (hbefore.passOn woken).ring ?_
      intro remembered htwo
      have hshort := short_of_not_losesRing kept (.leaves p stands woken) remembered
        (Nat.le_trans htwo hturning)
      have hlook := Doorbell.length_look woken
      omega
    · rw [Doorbell.leave_of_not_woken woken]
      exact hbefore.forsake p
  · exact hbefore

theorem Covered.step (h : t.Covered) (attended : t.exchange.bell.Attended)
    (kept : ¬ t.LosesRing e) : (t.step e).Covered := by
  cases visit_step t e with
  | stays hands silent pollers bell =>
    have hunrung := unrung_step t e
    have hqueue := length_queue_step t e
    have hturning : (t.step e).turning = t.turning := by rw [turning, pollers, turning]
    rw [hands, List.length_nil] at hqueue
    rw [silent, List.length_nil] at hunrung
    rw [Covered, bell, hturning]
    exact h.mono (by omega) (Nat.le_refl _)
  | rings sender q event stands _ _ =>
    subst event
    exact h.rings stands kept
  | asks event pollers bell =>
    subst event
    obtain ⟨hunrung, hqueue⟩ := counts_of_still (t := t) (e := .asks) rfl rfl
    have hturning : (t.step .asks).turning = t.turning := by
      rw [turning, pollers, turning]
      simp
    rw [Covered, bell, hturning]
    exact h.mono (by omega) (Nat.le_refl _)
  | turns p event looks empty hands pollers bell =>
    subst event
    obtain ⟨-, hqueue⟩ := counts_of_still (t := t) (e := .looks p) rfl rfl
    have hnone : (t.step (.looks p)).exchange.queue.length = 0 := by
      rw [empty] at hqueue
      exact Nat.le_zero.1 (Nat.le_trans (Nat.le_add_right _ _) hqueue)
    rw [Covered, bell, hnone]
    exact .of_empty
  | takes p q event looks hands pollers bell =>
    subst event
    exact h.takes looks hands pollers bell
  | sleeps p event stands pollers bell =>
    subst event
    obtain ⟨hunrung, hqueue⟩ := counts_of_still (t := t) (e := .sleeps p) rfl rfl
    have hturning : (t.step (.sleeps p)).turning + 1 = t.turning := turning_sleeps stands
    rw [Covered, bell, hunrung]
    exact (h.mono (by omega) (Nat.le_of_eq hturning)).sleep attended p
  | leaves p event stage stands unserved pollers bell =>
    subst event
    exact h.leaves stands pollers bell kept

end Step

theorem Covered.run {t : Traffic} (h : t.Covered) (attended : t.exchange.bell.Attended)
    {events : List Event}
    (kept : ∀ sooner e later, events = sooner ++ e :: later → ¬ (t.run sooner).LosesRing e) :
    (t.run events).Covered := by
  induction events generalizing t with
  | nil => exact h
  | cons e rest ih =>
    refine ih (h.step attended (kept [] e rest rfl)) (attended_step attended e) ?_
    rintro sooner e' later rfl
    exact kept (e :: sooner) e' later rfl

/-- No ring is lost while at most one poller at a time is about to sleep. -/
theorem keeps_of_turning_le_one {events : List Event}
    (h : ∀ n ≤ events.length, (fresh.run (events.take n)).turning ≤ 1) (sooner : List Event)
    (e : Event) (later : List Event) (split : events = sooner ++ e :: later) :
    ¬ (fresh.run sooner).LosesRing e := by
  intro loses
  have hsooner : events.take sooner.length = sooner := by simp [split]
  have hone := h sooner.length (by simp [split])
  rw [hsooner] at hone
  exact absurd loses.turning (by omega)

/-! ## What a lost ring leads to -/

theorem exists_turning {t : Traffic} (h : 0 < t.turning) :
    ∃ p : Poller, t.pollers[p]? = some .turning := by
  obtain ⟨stage, hmem, hstage⟩ := List.countP_pos_iff.1 h
  obtain rfl : stage = .turning := by simpa using hstage
  exact List.getElem?_of_mem hmem

/-- After a lost ring, the line is longer by two than the pollers that were woken and the senders that
    have yet to ring, and no more than one ring is remembered for the two. -/
theorem LosesRing.step {t : Traffic} {e : Event} (h : t.LosesRing e)
    (attended : t.exchange.bell.Attended) :
    (t.step e).exchange.bell.remembered = true ∧ 2 ≤ (t.step e).turning ∧
      (t.step e).exchange.bell.woken.length + (t.step e).unrung + 2
        ≤ (t.step e).exchange.queue.length := by
  obtain ⟨rings, remembered, htwo, short⟩ := h
  have asleep : t.exchange.bell.asleep = [] := attended remembered
  have hunrung := unrung_step t e
  cases rings with
  | sends sender q stands =>
    have hstep := step_rings_of_queued stands
    have hqueue : (t.step (.rings sender)).exchange.queue = t.exchange.queue := by
      rw [hstep]
      rfl
    have hbell : (t.step (.rings sender)).exchange.bell
        = { t.exchange.bell with remembered := true } := by
      rw [hstep]
      exact Doorbell.ring_of_nil asleep
    have hturning : (t.step (.rings sender)).turning = t.turning := by
      rw [hstep]
      rfl
    simp only [ringing, joining, stands, List.length_singleton, List.length_nil] at hunrung
    rw [hbell, hqueue, hturning]
    exact ⟨rfl, htwo, by dsimp only; omega⟩
  | leaves p stands woken =>
    have hlook := Doorbell.length_look woken
    have hstep := step_leaves_of_resting stands
    have hqueue : (t.step (.leaves p)).exchange.queue = t.exchange.queue := by
      rw [hstep]
    have hbell : (t.step (.leaves p)).exchange.bell
        = { t.exchange.bell.look p with remembered := true } := by
      rw [hstep]
      exact (Doorbell.leave_of_woken woken).trans (Doorbell.ring_of_nil asleep)
    have hturning : (t.step (.leaves p)).turning = t.turning := by
      simpa using turning_of_set stands (congrArg pollers hstep)
    simp only [ringing, joining, List.length_nil] at hunrung
    rw [hbell, hqueue, hturning]
    exact ⟨rfl, htwo, by dsimp only; omega⟩

/-- Whenever a ring is lost, two of the pollers may go to sleep next. One of them then does sleep, and
    leaves more invocations in the line than there are pollers that were woken and senders that have
    yet to ring. -/
theorem lost_ring_leaves_behind {events : List Event} {e : Event}
    (loses : (fresh.run events).LosesRing e) :
    ∃ p p', (fresh.run (events ++ [e, .sleeps p, .sleeps p'])).exchange.bell.asleep ≠ [] ∧
      (fresh.run (events ++ [e, .sleeps p, .sleeps p'])).exchange.bell.woken.length
          + (fresh.run (events ++ [e, .sleeps p, .sleeps p'])).unrung
        < (fresh.run (events ++ [e, .sleeps p, .sleeps p'])).exchange.queue.length := by
  have attended : (fresh.run events).exchange.bell.Attended := attended_run .silent events
  obtain ⟨remembered, htwo, hshort⟩ := loses.step attended
  have asleep := attended_step attended e remembered
  generalize hs : (fresh.run events).step e = s at remembered htwo hshort asleep
  obtain ⟨p, stands⟩ := exists_turning (show 0 < s.turning by omega)
  have hone := turning_sleeps stands
  have hbell : (s.step (.sleeps p)).exchange.bell
      = { s.exchange.bell with remembered := false, woken := s.exchange.bell.woken ++ [p] } := by
    rw [step_sleeps_of_turning stands]
    simp [sleep, Doorbell.sleep, remembered]
  obtain ⟨p', stands'⟩ := exists_turning (show 0 < (s.step (.sleeps p)).turning by omega)
  have hrun : fresh.run (events ++ [e, .sleeps p, .sleeps p'])
      = (s.step (.sleeps p)).step (.sleeps p') := by
    rw [run, List.foldl_append, ← hs]
    rfl
  have hbell' : ((s.step (.sleeps p)).step (.sleeps p')).exchange.bell
      = ⟨false, [p'], s.exchange.bell.woken ++ [p]⟩ := by
    rw [step_sleeps_of_turning stands']
    simp [sleep, Doorbell.sleep, hbell, asleep]
  have hqueue : ((s.step (.sleeps p)).step (.sleeps p')).exchange.queue = s.exchange.queue := by
    rw [step_sleeps_of_turning stands', step_sleeps_of_turning stands]
    rfl
  have hunrung : ((s.step (.sleeps p)).step (.sleeps p')).unrung = s.unrung := by
    rw [step_sleeps_of_turning stands', step_sleeps_of_turning stands]
    rfl
  refine ⟨p, p', ?_⟩
  rw [hrun, hbell', hqueue, hunrung]
  refine ⟨by simp, ?_⟩
  simp only [List.length_append, List.length_singleton]
  omega

/-! ## The main result -/

/-- Unless a ring was lost, whoever sleeps leaves at most as many invocations in the line as there are
    pollers that were woken and senders that have yet to ring; and so none is stranded. -/
theorem not_stranded (events : List Event)
    (kept : ∀ sooner e later, events = sooner ++ e :: later → ¬ (fresh.run sooner).LosesRing e) :
    ((fresh.run events).exchange.bell.asleep ≠ [] →
      (fresh.run events).exchange.queue.length
        ≤ (fresh.run events).exchange.bell.woken.length + (fresh.run events).unrung) ∧
    ¬ (fresh.run events).Stranded := by
  have covered : (fresh.run events).Covered := Covered.fresh.run .silent kept
  refine ⟨covered.sleeper, ?_⟩
  rintro ⟨queue, asleep, -, woken, unrung⟩
  have hline := covered.sleeper asleep
  rw [woken, unrung] at hline
  exact queue (List.eq_nil_of_length_eq_zero (Nat.le_zero.1 hline))

/-- Three pollers sleep, two invocations join the line, and the first of the senders has rung. -/
def rungOnce : List Event :=
  [ .asks, .looks 0, .sleeps 0, .asks, .looks 1, .sleeps 1, .asks, .looks 2, .sleeps 2,
    .brings (bareQueued "a"), .queues 0, .brings (bareQueued "b"), .queues 1, .rings 0 ]

theorem not_stranded_rungOnce :
    (∀ n ≤ rungOnce.length, (fresh.run (rungOnce.take n)).turning ≤ 1) ∧
    (fresh.run rungOnce).exchange.bell.asleep = [1, 2] ∧
    (fresh.run rungOnce).exchange.queue.length = 2 ∧ ¬ (fresh.run rungOnce).Stranded := by
  have turning : ∀ n ≤ rungOnce.length, (fresh.run (rungOnce.take n)).turning ≤ 1 := by
    decide +kernel
  refine ⟨turning, by decide +kernel, by decide +kernel, ?_⟩
  exact (not_stranded rungOnce (keeps_of_turning_le_one turning)).2

/-- Two pollers find the queue empty, and two senders queue an invocation and ring before either of
    the pollers sleeps. The first of them then takes one invocation, and the second one sleeps. -/
def rungTwice : List Event :=
  [ .asks, .asks, .looks 0, .looks 1, .brings (bareQueued "a"), .queues 0, .rings 0,
    .brings (bareQueued "b"), .queues 1, .rings 1, .sleeps 0, .looks 0, .sleeps 1 ]

/-- The second ring is lost, and its invocation is stranded. -/
theorem stranded_by_lost_ring :
    (fresh.run rungTwice).Stranded ∧ (fresh.run rungTwice).Served 0 (bareQueued "a") ∧
    (fresh.run rungTwice).exchange.queue = [bareQueued "b"] ∧
    (fresh.run rungTwice).exchange.bell.asleep = [1] := by
  refine ⟨⟨?_, ?_, ?_, ?_, ?_⟩, ?_, ?_, ?_⟩ <;> decide +kernel

end Traffic

end FunctionHost
