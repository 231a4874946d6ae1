-- SUMMARY: As long as no call is dropped, only the call with the reservation waits at the exchange.
import FunctionHost.Proofs.Sandbox.Reservation

/-! # Single flight

Whoever waits at the exchange is a call that has brought its invocation and does not know yet what
became of it. That call holds the reservation, so there is at most one, and before it gives the
reservation back nobody waits any more: it was answered, or told of an exit, or it gave up. Only a
call that is dropped leaves its ticket behind. -/

namespace FunctionHost

namespace Traffic

variable {t : Traffic} {id : String} {i : Ticket}

/-- Only who brings an invocation comes to wait. -/
theorem waits_of_step {e : Event} (unbrought : ∀ q, e ≠ .brings q)
    (h : (t.step e).exchange.waiting.get? id = some i) : t.exchange.waiting.get? id = some i := by
  cases shift_step t e with
  | keeps waiting _ => exact waiting ▸ h
  | registers q event _ _ _ => exact absurd event (unbrought q)
  | answers _ _ _ _ _ waiting _ | givesUp _ _ waiting _ =>
    exact (Dictionary.get?_of_get?_erase (waiting ▸ h)).2
  | tells _ _ _ _ waiting _ => simp [waiting] at h

theorem waits_of_run_neutral {events : List Event} (neutral : ∀ event ∈ events, event.IsNeutral)
    (h : (t.run events).exchange.waiting.get? id = some i) :
    t.exchange.waiting.get? id = some i := by
  induction events generalizing t with
  | nil => exact h
  | cons e rest ih =>
    obtain ⟨hneutral, hrest⟩ := List.forall_mem_cons.1 neutral
    refine waits_of_step ?_ (ih hrest h)
    rintro q rfl
    exact hneutral

/-- A ticket with a reply to come is not told that none will. -/
theorem Expects.inbox_ne_closed (h : t.Expects id i) : t.exchange.inbox i ≠ .closed := by
  intro closed
  simp only [Exchange.inbox] at closed
  split at closed
  · cases closed
  · next unmailed =>
    rcases h with waits | mailed
    · have known : (t.exchange.waiting.entries.any fun entry => entry.2 = i) = true :=
        List.any_eq_true.2 ⟨(id, i), Dictionary.mem_entries_iff.2 waits, by simp⟩
      simp [known] at closed
    · obtain ⟨reply, hreply⟩ := List.exists_mem_of_ne_nil _ mailed
      have unfound := List.find?_eq_none.1 unmailed _ (mem_messages_iff.1 hreply)
      simp at unfound

end Traffic

namespace Sandbox

open Exchange

variable {s : Sandbox} {e : Event}

/-! ## The invariant -/

/-- Where a call may stand while a ticket of its waits: it listens, or it has just stopped to. -/
def CallStage.Awaits (stage : CallStage) (ticket : Ticket) : Prop :=
  stage = .brought ticket ∨ stage = .expired

theorem CallStage.Awaits.not_isOver {stage : CallStage} {ticket : Ticket}
    (h : stage.Awaits ticket) : ¬ stage.IsOver := by
  rcases h with rfl | rfl <;> exact fun finished => finished

/-- What holds of a sandbox at any time as long as no call is dropped: a call that is not over holds
    the reservation if anybody does, whoever waits at the exchange is such a call, and no call found
    that nothing would come. -/
structure Exclusive (s : Sandbox) : Prop where
  orderly : s.Orderly
  holds : ∀ call, s.holder = some call → ∃ c, s.calls[call]? = some c ∧ ¬ c.stage.IsOver
  waits : ∀ id ticket, s.exchange.waiting.get? id = some ticket →
    ∃ (call : Nat) (c : Call), s.calls[call]? = some c ∧ c.invocation.id = id ∧
      c.stage.Awaits ticket
  heard : ∀ (call : Nat) (c : Call) (draft : Draft), s.calls[call]? = some c →
    c.stage ≠ .returned (.failed .internalServerError) draft

theorem Exclusive.fresh : fresh.Exclusive where
  orderly := .fresh
  holds call h := by simp [Sandbox.fresh] at h
  waits id ticket h := by simp [Sandbox.fresh, exchange, Traffic.fresh, Exchange.fresh] at h
  heard call c draft h := by simp [Sandbox.fresh] at h

theorem Exclusive.holds_step (h : s.Exclusive) (e : Event) (call : Nat)
    (held : (s.step e).holder = some call) :
    ∃ c, (s.step e).calls[call]? = some c ∧ ¬ c.stage.IsOver := by
  cases transition s e with
  | passes _ _ _ _ calls holder _ | replies _ _ _ _ _ _ _ _ calls holder =>
    rw [calls]
    exact h.holds call (holder ▸ held)
  | turnedAway invocation _ _ _ calls holder =>
    obtain ⟨c, hc, active⟩ := h.holds call (holder ▸ held)
    refine ⟨c, ?_, active⟩
    rw [calls, List.getElem?_append_left (List.getElem?_eq_some_iff.1 hc).1, hc]
  | reserves invocation _ _ _ calls holder =>
    obtain rfl : s.calls.length = call := Option.some.inj (holder.symm.trans held)
    exact ⟨⟨invocation, .reserved⟩, by simp [calls], fun finished => finished⟩
  | acts other c stage stands unfinished _ calls keeps releases =>
    by_cases finished : stage.IsOver
    · rw [releases finished] at held
      cases held
    · -- The call that acts is the one that holds the reservation.
      have mine := h.orderly.held other c stands unfinished
      obtain rfl : other = call :=
        Option.some.inj (mine.symm.trans ((keeps finished).symm.trans held))
      refine ⟨⟨c.invocation, stage⟩, ?_, finished⟩
      rw [calls, moved, List.getElem?_modify]
      simp [stands]

section Act

variable {call : Nat} {c : Call} {stage : CallStage} {t : Traffic}

/-- If anybody waits while a call is not over, it is that call. -/
theorem Exclusive.waits_own (h : s.Exclusive) (stands : s.calls[call]? = some c)
    (unfinished : ¬ c.stage.IsOver) {id : String} {ticket : Ticket}
    (waits : s.exchange.waiting.get? id = some ticket) :
    c.invocation.id = id ∧ c.stage.Awaits ticket := by
  obtain ⟨other, d, hd, hid, awaits⟩ := h.waits id ticket waits
  obtain rfl := h.orderly.unique stands hd unfinished awaits.not_isOver
  obtain rfl : c = d := Option.some.inj (stands.symm.trans hd)
  exact ⟨hid, awaits⟩

/-- If anybody waits after a call took a step, it is that call. -/
theorem Exclusive.act_waits (h : s.Exclusive) (stands : s.calls[call]? = some c)
    (unfinished : ¬ c.stage.IsOver) (stays : e ≠ .drops call) (act : s.Act call c e stage t)
    {id : String} {ticket : Ticket} (waits : t.exchange.waiting.get? id = some ticket) :
    c.invocation.id = id ∧ stage.Awaits ticket := by
  have own (before : s.exchange.waiting.get? id = some ticket) :
      c.invocation.id = id ∧ c.stage.Awaits ticket := h.waits_own stands unfinished before
  cases act with
  | failsCheck hstage | passesCheck hstage =>
    have awaits := (own waits).2
    simp [hstage, CallStage.Awaits] at awaits
  | isRefused now reason hstage exited =>
    rw [Traffic.step_brings_of_exited _ exited] at waits
    have awaits := (own waits).2
    simp [hstage, CallStage.Awaits] at awaits
  | enrolls now hstage running =>
    rw [Traffic.step_brings_of_running _ running, Dictionary.get?_insert] at waits
    split at waits
    · next hid =>
      obtain rfl := Option.some.inj waits
      exact ⟨hid.symm, .inl rfl⟩
    · have awaits := (own waits).2
      simp [hstage, CallStage.Awaits] at awaits
  | hears ticket' reply hstage found =>
    -- Whoever has mail waits no longer.
    obtain rfl : ticket' = ticket := by
      have awaits := (own waits).2
      simpa [hstage, CallStage.Awaits] using awaits
    have mailed : (ticket', reply) ∈ s.traffic.exchange.mail :=
      Traffic.mem_messages_iff.1 (List.mem_of_mem_head? (Traffic.inbox_eq_reply_iff.1 found))
    exact absurd waits ((h.orderly.sound.mailed ticket' reply mailed).2 id)
  | hearsNothing ticket' hstage closed =>
    exact absurd closed (h.orderly.brought call c ticket' stands hstage).2.inbox_ne_closed
  | expires ticket' hstage => exact ⟨(own waits).1, .inr rfl⟩
  | forgets hstage =>
    obtain ⟨hne, before⟩ := Dictionary.get?_of_get?_erase waits
    exact absurd (own before).1.symm hne
  | withdraws hstage =>
    have awaits := (own waits).2
    simp [hstage, CallStage.Awaits] at awaits
  | drops => exact absurd rfl stays

/-- A call that took a step was not told that nothing would come. -/
theorem Exclusive.act_heard (h : s.Exclusive) (stands : s.calls[call]? = some c)
    (act : s.Act call c e stage t) (draft : Draft) :
    stage ≠ .returned (.failed .internalServerError) draft := by
  cases act with
  | hears ticket reply => cases reply <;> simp [answer]
  | hearsNothing ticket hstage closed =>
    exact absurd closed (h.orderly.brought call c ticket stands hstage).2.inbox_ne_closed
  | failsCheck | passesCheck | isRefused | enrolls | expires | forgets | withdraws | drops => simp

end Act

theorem Exclusive.waits_step (h : s.Exclusive) (e : Event) (stays : ∀ call, e ≠ .drops call)
    (id : String) (ticket : Ticket) (waits : (s.step e).exchange.waiting.get? id = some ticket) :
    ∃ (call : Nat) (c : Call), (s.step e).calls[call]? = some c ∧ c.invocation.id = id ∧
      c.stage.Awaits ticket := by
  change (s.step e).traffic.exchange.waiting.get? id = some ticket at waits
  cases transition s e with
  | passes events neutral _ traffic calls _ _ =>
    rw [traffic] at waits
    rw [calls]
    exact h.waits id ticket (Traffic.waits_of_run_neutral neutral waits)
  | replies _ _ reply _ _ _ _ traffic calls _ =>
    rw [traffic] at waits
    rw [calls]
    exact h.waits id ticket (Traffic.waits_of_step (by simp) waits)
  | turnedAway _ _ _ traffic calls _ | reserves _ _ _ traffic calls _ =>
    rw [traffic] at waits
    obtain ⟨call, c, hc, hid, awaits⟩ := h.waits id ticket waits
    refine ⟨call, c, ?_, hid, awaits⟩
    rw [calls, List.getElem?_append_left (List.getElem?_eq_some_iff.1 hc).1, hc]
  | acts call c stage stands unfinished act calls _ _ =>
    obtain ⟨hid, awaits⟩ := h.act_waits stands unfinished (stays call) act waits
    refine ⟨call, ⟨c.invocation, stage⟩, ?_, hid, awaits⟩
    rw [calls, moved, List.getElem?_modify]
    simp [stands]

theorem Exclusive.heard_step (h : s.Exclusive) (e : Event) (call : Nat) (c : Call) (draft : Draft)
    (hc : (s.step e).calls[call]? = some c) :
    c.stage ≠ .returned (.failed .internalServerError) draft := by
  cases transition s e with
  | passes _ _ _ _ calls _ _ | replies _ _ _ _ _ _ _ _ calls _ =>
    exact h.heard call c draft (calls ▸ hc)
  | turnedAway _ _ _ _ calls _ | reserves _ _ _ _ calls _ =>
    rcases getElem?_append_call (calls ▸ hc) with hold | ⟨_, rfl⟩
    · exact h.heard call c draft hold
    · simp
  | acts other d stage stands _ act calls _ _ =>
    rcases getElem?_moved stands (calls ▸ hc) with ⟨rfl, rfl⟩ | ⟨_, hold⟩
    · exact h.act_heard stands act draft
    · exact h.heard call c draft hold

theorem Exclusive.step (h : s.Exclusive) (e : Event) (stays : ∀ call, e ≠ .drops call) :
    (s.step e).Exclusive where
  orderly := h.orderly.step e
  holds := h.holds_step e
  waits := h.waits_step e stays
  heard := h.heard_step e

theorem Exclusive.run (h : s.Exclusive) {events : List Event}
    (stays : ∀ call, .drops call ∉ events) : (s.run events).Exclusive := by
  induction events generalizing s with
  | nil => exact h
  | cons e rest ih =>
    refine ih (h.step e ?_) fun call dropped => stays call (List.mem_cons_of_mem e dropped)
    rintro call rfl
    exact stays call List.mem_cons_self

/-! ## What follows from it -/

/-- Whoever waits is the call that holds the reservation. -/
theorem Exclusive.holder_of_waits (h : s.Exclusive) {id : String} {ticket : Ticket}
    (waits : s.exchange.waiting.get? id = some ticket) :
    ∃ (call : Nat) (c : Call), s.holder = some call ∧ s.calls[call]? = some c ∧
      c.invocation.id = id := by
  obtain ⟨call, c, hc, hid, awaits⟩ := h.waits id ticket waits
  exact ⟨call, c, h.orderly.held call c hc awaits.not_isOver, hc, hid⟩

theorem Exclusive.waiting_size (h : s.Exclusive) : s.exchange.waiting.size ≤ 1 := by
  cases hholder : s.holder with
  | none =>
    refine Dictionary.size_le_one "" fun id ticket waits => ?_
    obtain ⟨call, c, held, _⟩ := h.holder_of_waits waits
    simp [hholder] at held
  | some holder =>
    obtain ⟨c, hc, _⟩ := h.holds holder hholder
    refine Dictionary.size_le_one c.invocation.id fun id ticket waits => ?_
    obtain ⟨call, d, held, hd, rfl⟩ := h.holder_of_waits waits
    obtain rfl : holder = call := Option.some.inj (hholder.symm.trans held)
    obtain rfl : c = d := Option.some.inj (hc.symm.trans hd)
    rfl

/-- Nobody waits while the reservation is free. -/
theorem Exclusive.waiting_of_free (h : s.Exclusive) (free : s.holder = none) :
    s.exchange.waiting = .empty := by
  refine Dictionary.eq_empty_of_get? fun id ticket waits => ?_
  obtain ⟨call, c, held, _⟩ := h.holder_of_waits waits
  simp [free] at held

/-- Nobody waits until the call that holds the reservation has brought its invocation. -/
theorem Exclusive.waiting_of_early (h : s.Exclusive) {call : Nat} {c : Call}
    (hc : s.calls[call]? = some c) (early : c.stage = .reserved ∨ c.stage = .admitted) :
    s.exchange.waiting = .empty := by
  have active : ¬ c.stage.IsOver := by
    rcases early with hstage | hstage <;> simp [hstage, CallStage.IsOver]
  refine Dictionary.eq_empty_of_get? fun id ticket waits => ?_
  have awaits := (h.waits_own hc active waits).2
  rcases early with hstage | hstage <;> simp [hstage, CallStage.Awaits] at awaits

/-- A call that held the reservation has given it back when it returns. -/
theorem Exclusive.free_of_returns (h : s.Exclusive) {call : Nat} (held : s.holder = some call)
    {result : Outcome × Draft} (returned : (s.step e).returned? call = some result) :
    (s.step e).holder = none := by
  obtain ⟨c, hc, active⟩ := h.holds call held
  have unreturned : s.returned? call = none := by
    simp only [returned?, callStage?, hc, Option.map_some]
    split
    · next hstage =>
      rw [Option.some.inj hstage] at active
      exact absurd trivial active
    · rfl
  have still (calls : (s.step e).calls[call]? = s.calls[call]?) :
      (s.step e).holder = none := by
    have same : (s.step e).returned? call = s.returned? call := by
      simp only [returned?, callStage?, calls]
    rw [same, unreturned] at returned
    cases returned
  cases transition s e with
  | passes _ _ _ _ calls _ _ | replies _ _ _ _ _ _ _ _ calls _ => exact still (by rw [calls])
  | turnedAway _ _ _ _ calls _ | reserves _ _ _ _ calls _ =>
    exact still (by rw [calls, List.getElem?_append_left (List.getElem?_eq_some_iff.1 hc).1])
  | acts other d stage stands unfinished _ calls _ releases =>
    obtain rfl := h.orderly.unique stands hc unfinished active
    refine releases ?_
    have moved : (s.step e).calls[other]? = some ⟨d.invocation, stage⟩ := by
      rw [calls, Sandbox.moved, List.getElem?_modify]
      simp [stands]
    have hstage : stage = .returned result.1 result.2 := stage_of_returned? moved returned
    rw [hstage]
    trivial

theorem step_arrives_of_held (held : s.holder ≠ none) (invocation : Invocation) :
    (s.step (.arrives invocation)).returned? s.calls.length
        = some (.failed .alreadyReserved, .blank) ∧
      (s.step (.arrives invocation)).traffic = s.traffic ∧
      (s.step (.arrives invocation)).holder = s.holder := by
  obtain ⟨holder, hholder⟩ := Option.ne_none_iff_exists'.1 held
  refine ⟨?_, ?_, ?_⟩ <;> simp [step, arrive, hholder, returned?, callStage?]

/-- As long as no call is dropped, at most one call has anything at the exchange: only the call that
    holds the reservation is waited for. A call that arrives in the meantime is turned away and
    leaves its draft and all the traffic alone. When a call that held the reservation returns, the
    reservation is free and nobody waits. So nobody is ever displaced by a call that registers, and
    no call is told that nothing will come. -/
theorem only_holder_waits (events : List Event) (stays : ∀ call, .drops call ∉ events) :
    (fresh.run events).exchange.waiting.size ≤ 1 ∧
    (∀ (id : String) (ticket : Ticket),
      (fresh.run events).exchange.waiting.get? id = some ticket →
      ∃ (call : Nat) (c : Call), (fresh.run events).holder = some call ∧
        (fresh.run events).calls[call]? = some c ∧ c.invocation.id = id) ∧
    (∀ invocation, (fresh.run events).holder ≠ none →
      ((fresh.run events).step (.arrives invocation)).returned? (fresh.run events).calls.length
        = some (.failed .alreadyReserved, .blank) ∧
      ((fresh.run events).step (.arrives invocation)).traffic = (fresh.run events).traffic ∧
      ((fresh.run events).step (.arrives invocation)).holder = (fresh.run events).holder) ∧
    (∀ (e : Event) (call : Nat) (result : Outcome × Draft), (∀ other, e ≠ .drops other) →
      (fresh.run events).holder = some call →
      ((fresh.run events).step e).returned? call = some result →
      ((fresh.run events).step e).holder = none ∧
      ((fresh.run events).step e).exchange.waiting = .empty) ∧
    (∀ (call : Nat) (c : Call), (fresh.run events).calls[call]? = some c → c.stage = .admitted →
      (fresh.run events).exchange.waiting.get? c.invocation.id = none) ∧
    (∀ (call : Nat) (draft : Draft),
      (fresh.run events).returned? call ≠ some (.failed .internalServerError, draft)) := by
  have h : (fresh.run events).Exclusive := Exclusive.fresh.run stays
  refine ⟨h.waiting_size, fun id ticket => h.holder_of_waits, fun invocation held =>
    step_arrives_of_held held invocation, ?_, ?_, ?_⟩
  · intro e call result undropped held returned
    have free := h.free_of_returns held returned
    exact ⟨free, (h.step e undropped).waiting_of_free free⟩
  · intro call c hc admitted
    rw [h.waiting_of_early hc (.inr admitted)]
    rfl
  · intro call draft returned
    cases hc : (fresh.run events).calls[call]? with
    | none => simp [returned?, callStage?, hc] at returned
    | some c => exact h.heard call c draft hc (stage_of_returned? hc returned)

/-- Three calls come with the same id: one is served, one comes while the first is served, and the
    last still waits. -/
def sameIdThrice : List Event :=
  [ .requests polling, .arrives (plain "a"), .checks 0, .brings 0 ⟨0⟩, .queues 0, .rings 0,
    .arrives (plain "a"), .requests (posting "/2018-06-01/runtime/invocation/a/response" [1]),
    .hears 0, .arrives (plain "a"), .checks 2, .brings 2 ⟨0⟩, .queues 2, .rings 2 ]

theorem only_holder_waits_sameIdThrice :
    (fresh.run sameIdThrice).returned? 0 = some (.served, ⟨some .ok, [1]⟩) ∧
    (fresh.run sameIdThrice).returned? 1 = some (.failed .alreadyReserved, .blank) ∧
    (fresh.run sameIdThrice).exchange.waiting.get? "a" = some 1 ∧
    (fresh.run sameIdThrice).exchange.waiting.size ≤ 1 ∧
    ∃ (call : Nat) (c : Call), (fresh.run sameIdThrice).holder = some call ∧
      (fresh.run sameIdThrice).calls[call]? = some c ∧ c.invocation.id = "a" := by
  have waits : (fresh.run sameIdThrice).exchange.waiting.get? "a" = some 1 := by decide +kernel
  obtain ⟨single, holder, _⟩ := only_holder_waits sameIdThrice (by simp [sameIdThrice])
  exact ⟨by decide +kernel, by decide +kernel, waits, single, holder "a" 1 waits⟩

end Sandbox

end FunctionHost
