-- SUMMARY: How long an invocation stays in sight of those who fetch, and a ticket goes on waiting.
import FunctionHost.Proofs.Exchange.Fate
import FunctionHost.Proofs.Exchange.Line

/-! # What stays at an exchange

An invocation that has joined the line is in sight: it stands there, or was handed to somebody, or an
exit has cleared the line. Only who withdraws it takes it out of sight. A ticket goes on waiting as
long as nobody replies, gives up or registers, unless everyone is told of an exit. -/

namespace FunctionHost.Traffic

open Exchange

variable {t : Traffic} {e : Event} {q : Queued} {i : Ticket}

/-! ## Invocations in sight -/

/-- An invocation stands in the line, or was handed to a poller, or an exit has cleared the line. -/
def InSight (t : Traffic) (q : Queued) : Prop :=
  q ∈ t.exchange.queue ∨ (∃ p, t.Served p q) ∨ ∃ r ∈ t.exits, r.stage = .cleared

theorem cleared_step (h : ∃ r ∈ t.exits, r.stage = .cleared) (e : Event) :
    ∃ r ∈ (t.step e).exits, r.stage = .cleared := by
  obtain ⟨r, hr, hstage⟩ := h
  cases reports_step t e with
  | same exits _ => exact ⟨r, exits ▸ hr, hstage⟩
  | begins reason document _ exits _ => exact ⟨r, exits ▸ List.mem_append_left _ hr, hstage⟩
  | advances exit r' _ reported exits _ _ =>
    obtain ⟨j, hj⟩ := List.getElem?_of_mem hr
    rw [exits]
    by_cases hexit : exit = j
    · subst hexit
      obtain rfl : r' = r := Option.some.inj (reported.symm.trans hj)
      exact ⟨_, List.mem_set (List.getElem?_eq_some_iff.1 hj).1 _, by rw [hstage]; rfl⟩
    · exact ⟨r, List.mem_of_getElem? (by rw [List.getElem?_set_ne hexit]; exact hj), hstage⟩

/-- Only who withdraws an invocation takes it out of sight. -/
theorem InSight.step (h : t.InSight q) (kept : e ≠ .withdraws q.invocation.id) :
    (t.step e).InSight q := by
  rcases h with stands | ⟨p, served⟩ | cleared
  · rcases mem_queue_step stands e with stays | handed | discards
    · exact .inl stays
    · obtain ⟨⟨p, q'⟩, hmem, rfl⟩ := List.mem_map.1 handed
      exact .inr (.inl ⟨p, (served_step t e p q').2 (.inr hmem)⟩)
    · cases discards with
      | withdrawn => exact absurd rfl kept
      | cleared exit r reported stage =>
        refine .inr (.inr ⟨{ r with stage := .cleared }, ?_, rfl⟩)
        simp only [Traffic.step, reported, report, stage]
        exact List.mem_set (List.getElem?_eq_some_iff.1 reported).1 _
  · exact .inr (.inl ⟨p, (served_step t e p q).2 (.inl served)⟩)
  · exact .inr (.inr (cleared_step cleared e))

theorem InSight.run_neutral (h : t.InSight q) {events : List Event}
    (neutral : ∀ event ∈ events, event.IsNeutral) : (t.run events).InSight q := by
  induction events generalizing t with
  | nil => exact h
  | cons e rest ih =>
    obtain ⟨hneutral, hrest⟩ := List.forall_mem_cons.1 neutral
    refine ih (h.step ?_) hrest
    rintro rfl
    exact hneutral

/-- If a sender has joined the line, then its invocation is in sight. -/
def Visible (t : Traffic) (i : Ticket) : Prop :=
  ∀ q, t.Joined i q → t.InSight q

theorem Visible.step (h : t.Visible i) (kept : ∀ id, e ≠ .withdraws id) : (t.step e).Visible i := by
  intro q joined
  rcases (joined_step t e i q).1 joined with before | joins
  · exact (h q before).step (kept _)
  · exact .inl (mem_queue_of_joining (List.mem_map_of_mem joins))

theorem Visible.run_neutral (h : t.Visible i) {events : List Event}
    (neutral : ∀ event ∈ events, event.IsNeutral) : (t.run events).Visible i := by
  induction events generalizing t with
  | nil => exact h
  | cons e rest ih =>
    obtain ⟨hneutral, hrest⟩ := List.forall_mem_cons.1 neutral
    refine ih (h.step ?_) hrest
    rintro id rfl
    exact hneutral

/-! ## Tickets that wait -/

/-- A report of an exit that ends the waiting of a ticket has told everyone. -/
theorem drained_of_told {exit : Nat} {r : ExitReport} {id : String}
    (reported : t.exits[exit]? = some r) (waits : t.exchange.waiting.get? id = some i)
    (gone : (t.step (.reports exit)).Gone i) : (t.step (.reports exit)).Drained := by
  cases hstage : r.stage with
  | failed =>
    refine ⟨{ r with stage := .drained }, ?_, .inl rfl⟩
    simp only [Traffic.step, reported, report, hstage]
    exact List.mem_set (List.getElem?_eq_some_iff.1 reported).1 _
  | recorded =>
    refine absurd ?_ (gone.2 id)
    simp only [Traffic.step, reported, report, hstage, failStart]
    split <;> exact waits
  | drained | cleared =>
    refine absurd ?_ (gone.2 id)
    simp only [Traffic.step, reported, report, hstage]
    exact waits

/-- Where nobody registers, replies or gives up, a ticket goes on waiting until an exit is told. -/
theorem Sound.waits_run_neutral {id : String} (h : t.Sound)
    (waits : t.exchange.waiting.get? id = some i) {events : List Event}
    (neutral : ∀ event ∈ events, event.IsNeutral) :
    (t.run events).exchange.waiting.get? id = some i ∨ (t.run events).Drained := by
  induction events generalizing t with
  | nil => exact .inl waits
  | cons e rest ih =>
    obtain ⟨hneutral, hrest⟩ := List.forall_mem_cons.1 neutral
    cases h.next waits e with
    | waits waits' => exact ih (h.step e) waits' hrest
    | told exit r event reported gone _ =>
      subst event
      exact .inr ((drained_of_told reported waits gone).run rest)
    | answered reply event _ _ | gaveUp event _ _ | displaced q event _ _ _ =>
      rw [event] at hneutral
      exact hneutral.elim

end FunctionHost.Traffic
