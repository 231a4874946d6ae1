-- SUMMARY: Who waits for a reply while many use an exchange, and what is mailed to them.
import FunctionHost.Exchange.Traffic
import FunctionHost.Proofs.Dictionary

/-! # Waiting for replies

Only four kinds of events touch those who wait for a reply: somebody registers, somebody is
answered, somebody gives up, and the exit of the function is told to everyone. `shift_step` says
once what each of them does, and everything else here is derived from it. -/

namespace FunctionHost.Traffic

open Exchange

/-! ## Views of traffic -/

/-- Events that bring nothing, reply to nothing and give up on nothing. -/
def Event.IsNeutral : Event → Prop
  | .brings _ => False
  | .replies _ _ => False
  | .forgets _ => False
  | .withdraws _ => False
  | _ => True

/-- Events other than a reply that claims that the function exited. -/
def Event.IsGenuine : Event → Prop
  | .replies _ (.exited _) => False
  | _ => True

theorem Event.IsNeutral.isGenuine {e : Event} (h : e.IsNeutral) : e.IsGenuine := by
  cases e with
  | replies => exact h.elim
  | _ => trivial

/-- The replies that were mailed under a ticket. -/
def messages (t : Traffic) (ticket : Ticket) : List Reply :=
  (t.exchange.mail.filter fun letter => letter.1 = ticket).map Prod.snd

/-- The reasons of the exits that were recorded. -/
def reasons (t : Traffic) : List String :=
  t.exits.map ExitReport.reason

/-- The report of an exit has told everyone who waited. -/
def Drained (t : Traffic) : Prop :=
  ∃ r ∈ t.exits, r.stage = .drained ∨ r.stage = .cleared

/-- Somebody registered under a ticket for the reply to an invocation. -/
def Enrolled (t : Traffic) (invocation : Invocation) (ticket : Ticket) : Prop :=
  ∃ s, t.senders[ticket]? = some s ∧ s.queued.invocation = invocation ∧
    ∀ reason, s.stage ≠ .refused reason

theorem Enrolled.lt_length {t : Traffic} {invocation : Invocation} {ticket : Ticket}
    (h : t.Enrolled invocation ticket) : ticket < t.senders.length := by
  obtain ⟨s, hs, _⟩ := h
  exact (List.getElem?_eq_some_iff.1 hs).1

@[simp] theorem run_nil (t : Traffic) : t.run [] = t := rfl

@[simp] theorem run_cons (t : Traffic) (e : Event) (events : List Event) :
    t.run (e :: events) = (t.step e).run events := rfl

/-! ## Single events -/

/-- Bringing an invocation registers a new ticket under its id while the function runs. -/
theorem step_brings_of_running {t : Traffic} (q : Queued) (h : t.exchange.exitReason = none) :
    t.step (.brings q) =
      { t with
        exchange := { t.exchange with
          waiting := t.exchange.waiting.insert q.invocation.id t.senders.length }
        senders := t.senders ++ [⟨q, .enrolled⟩] } := by
  simp [step, bring, enroll, h]

/-- Bringing an invocation is refused once an exit was recorded. -/
theorem step_brings_of_exited {t : Traffic} (q : Queued) {reason : String}
    (h : t.exchange.exitReason = some reason) :
    t.step (.brings q) = { t with senders := t.senders ++ [⟨q, .refused reason⟩] } := by
  simp [step, bring, enroll, h]

/-- A reply is mailed to the ticket that waits for it, which waits no longer. -/
theorem step_replies_of_waits {t : Traffic} {id : String} {ticket : Ticket} (reply : Reply)
    (h : t.exchange.waiting.get? id = some ticket) :
    t.step (.replies id reply) =
      { t with
        exchange := { t.exchange with
          waiting := t.exchange.waiting.erase id
          mail := t.exchange.mail ++ [(ticket, reply)] } } := by
  simp [step, deliver?, h]

/-- A reply that nobody waits for changes nothing. -/
theorem step_replies_of_none {t : Traffic} {id : String} (reply : Reply)
    (h : t.exchange.waiting.get? id = none) : t.step (.replies id reply) = t := by
  simp [step, deliver?, h]

/-! ## What an event does -/

/-- How an event changes who waits for a reply, and what is in the mail. -/
inductive Shift (t : Traffic) (e : Event) : Prop where
  | keeps (waiting : (t.step e).exchange.waiting = t.exchange.waiting)
      (mail : (t.step e).exchange.mail = t.exchange.mail)
  | registers (q : Queued) (event : e = .brings q) (running : t.exchange.exitReason = none)
      (waiting : (t.step e).exchange.waiting
        = t.exchange.waiting.insert q.invocation.id t.senders.length)
      (mail : (t.step e).exchange.mail = t.exchange.mail)
  | answers (id : String) (reply : Reply) (ticket : Ticket) (event : e = .replies id reply)
      (waits : t.exchange.waiting.get? id = some ticket)
      (waiting : (t.step e).exchange.waiting = t.exchange.waiting.erase id)
      (mail : (t.step e).exchange.mail = t.exchange.mail ++ [(ticket, reply)])
  | givesUp (id : String) (event : e = .forgets id)
      (waiting : (t.step e).exchange.waiting = t.exchange.waiting.erase id)
      (mail : (t.step e).exchange.mail = t.exchange.mail)
  | tells (exit : Nat) (r : ExitReport) (event : e = .reports exit)
      (reported : t.exits[exit]? = some r)
      (waiting : (t.step e).exchange.waiting = .empty)
      (mail : (t.step e).exchange.mail
        = t.exchange.mail ++ t.exchange.waiting.entries.map fun entry => (entry.2, .exited r.reason))

/-- Whoever looks for an invocation changes nothing at the exchange but the queue and the bell. -/
theorem looks_step (t : Traffic) (poller : Poller) :
    ∃ queue bell, (t.step (.looks poller)).exchange = { t.exchange with queue, bell } ∧
      (t.step (.looks poller)).senders = t.senders ∧ (t.step (.looks poller)).exits = t.exits := by
  have hlook (t : Traffic) : ∃ queue, (t.look poller).exchange = { t.exchange with queue } ∧
      (t.look poller).senders = t.senders ∧ (t.look poller).exits = t.exits := by
    cases hqueue : t.exchange.queue with
    | nil =>
      have hturning : t.look poller = t.movePoller poller .turning := by simp [look, pop?, hqueue]
      exact ⟨t.exchange.queue, by rw [hturning]; exact ⟨rfl, rfl, rfl⟩⟩
    | cons q rest => exact ⟨rest, by simp [look, pop?, hqueue, movePoller]⟩
  simp only [step]
  split
  · obtain ⟨queue, exchange, others⟩ := hlook t
    exact ⟨queue, t.exchange.bell, exchange, others⟩
  · split
    · exact ⟨_, t.exchange.bell.look poller, (hlook _).choose_spec⟩
    · exact ⟨_, _, rfl, rfl, rfl⟩
  · exact ⟨_, _, rfl, rfl, rfl⟩

theorem shift_step (t : Traffic) (e : Event) : t.Shift e := by
  cases e with
  | brings q =>
    cases hexit : t.exchange.exitReason with
    | none =>
      have hstep := step_brings_of_running q hexit
      exact .registers q rfl hexit (by rw [hstep]) (by rw [hstep])
    | some reason =>
      have hstep := step_brings_of_exited q hexit
      exact .keeps (by rw [hstep]) (by rw [hstep])
  | replies id reply =>
    cases hwaits : t.exchange.waiting.get? id with
    | none =>
      have hstep := step_replies_of_none reply hwaits
      exact .keeps (by rw [hstep]) (by rw [hstep])
    | some ticket =>
      have hstep := step_replies_of_waits reply hwaits
      exact .answers id reply ticket rfl hwaits (by rw [hstep]) (by rw [hstep])
  | forgets id => exact .givesUp id rfl rfl rfl
  | reports exit =>
    cases hr : t.exits[exit]? with
    | none => exact .keeps (by simp [step, hr]) (by simp [step, hr])
    | some r =>
      cases hstage : r.stage with
      | failed =>
        exact .tells exit r rfl hr (by simp [step, hr, report, hstage, drain])
          (by simp [step, hr, report, hstage, drain])
      | recorded =>
        constructor <;> simp only [step, hr, report, hstage, failStart] <;> split <;> rfl
      | drained | cleared => constructor <;> simp only [step, hr, report, hstage] <;> rfl
  | looks poller =>
    obtain ⟨queue, bell, exchange, _⟩ := looks_step t poller
    exact .keeps (by rw [exchange]) (by rw [exchange])
  | queues | rings | sleeps | leaves => constructor <;> simp only [step] <;> split <;> rfl
  | marksReady => constructor <;> simp only [step, markReady] <;> split <;> rfl
  | failsStart => constructor <;> simp only [step, failStart] <;> split <;> rfl
  | asks | withdraws | exits => exact .keeps rfl rfl

/-- How an event changes the senders: one more comes, or one that was not refused goes on. -/
inductive Sends (t : Traffic) (e : Event) : Prop where
  | same (senders : (t.step e).senders = t.senders)
  | comes (q : Queued) (stage : Sending) (event : e = .brings q)
      (senders : (t.step e).senders = t.senders ++ [⟨q, stage⟩])
  | goesOn (sender : Ticket) (q : Queued) (stage next : Sending)
      (stands : t.senders[sender]? = some ⟨q, stage⟩)
      (known : stage = .enrolled ∨ stage = .queued) (moved : next = .queued ∨ next = .rung)
      (senders : (t.step e).senders = t.senders.modify sender fun s => { s with stage := next })

theorem sends_step (t : Traffic) (e : Event) : t.Sends e := by
  cases e with
  | brings q =>
    cases hexit : t.exchange.exitReason with
    | none => exact .comes q .enrolled rfl (by rw [step_brings_of_running q hexit])
    | some reason => exact .comes q (.refused reason) rfl (by rw [step_brings_of_exited q hexit])
  | queues sender =>
    by_cases hstands : ∃ q, t.senders[sender]? = some ⟨q, .enrolled⟩
    · obtain ⟨q, hq⟩ := hstands
      exact .goesOn sender q .enrolled .queued hq (.inl rfl) (.inl rfl) (by simp [step, hq]; rfl)
    · refine .same ?_
      simp only [step]
      split
      · next q hq => exact absurd ⟨q, hq⟩ hstands
      · rfl
  | rings sender =>
    by_cases hstands : ∃ q, t.senders[sender]? = some ⟨q, .queued⟩
    · obtain ⟨q, hq⟩ := hstands
      exact .goesOn sender q .queued .rung hq (.inr rfl) (.inr rfl) (by simp [step, hq]; rfl)
    · refine .same ?_
      simp only [step]
      split
      · next q hq => exact absurd ⟨q, hq⟩ hstands
      · rfl
  | looks poller =>
    obtain ⟨_, _, _, senders, _⟩ := looks_step t poller
    exact .same senders
  | sleeps | leaves | replies | reports => refine .same ?_; simp only [step]; split <;> rfl
  | asks | forgets | withdraws | marksReady | failsStart | exits => exact .same rfl

/-! ## Senders -/

theorem length_senders_step (t : Traffic) (e : Event) :
    t.senders.length ≤ (t.step e).senders.length := by
  cases sends_step t e with
  | same senders => exact senders ▸ Nat.le_refl _
  | comes q stage _ senders => simp [senders]
  | goesOn sender q stage next _ _ _ senders => simp [senders]

/-- A sender that registered has registered for ever. -/
theorem Enrolled.step {t : Traffic} {invocation : Invocation} {ticket : Ticket}
    (h : t.Enrolled invocation ticket) (e : Event) : (t.step e).Enrolled invocation ticket := by
  obtain ⟨s, hs, hinv, hstage⟩ := h
  cases sends_step t e with
  | same senders => exact ⟨s, by rw [senders]; exact hs, hinv, hstage⟩
  | comes q stage _ senders =>
    refine ⟨s, ?_, hinv, hstage⟩
    rw [senders, List.getElem?_append_left (List.getElem?_eq_some_iff.1 hs).1]
    exact hs
  | goesOn sender q stage next _ _ moved senders =>
    by_cases hi : sender = ticket
    · have hmoved : (t.step e).senders[ticket]? = some { s with stage := next } := by
        rw [senders, List.getElem?_modify]
        simp [hi, hs]
      refine ⟨{ s with stage := next }, hmoved, hinv, ?_⟩
      rintro reason rfl
      simp at moved
    · exact ⟨s, by rw [senders, List.getElem?_modify]; simp [hi, hs], hinv, hstage⟩

theorem Enrolled.run {t : Traffic} {invocation : Invocation} {ticket : Ticket}
    (h : t.Enrolled invocation ticket) (events : List Event) :
    (t.run events).Enrolled invocation ticket := by
  induction events generalizing t with
  | nil => exact h
  | cons e rest ih => exact ih (h.step e)

/-- Only who brings an invocation registers for its reply. -/
theorem Enrolled.of_step {t : Traffic} {e : Event} {invocation : Invocation} {ticket : Ticket}
    (h : (t.step e).Enrolled invocation ticket) :
    t.Enrolled invocation ticket ∨ ∃ q, e = .brings q ∧ q.invocation = invocation := by
  obtain ⟨s, hs, hinv, hstage⟩ := h
  cases sends_step t e with
  | same senders => exact .inl ⟨s, senders ▸ hs, hinv, hstage⟩
  | comes q stage event senders =>
    rw [senders] at hs
    rcases Nat.lt_or_ge ticket t.senders.length with hlt | hge
    · exact .inl ⟨s, by rwa [List.getElem?_append_left hlt] at hs, hinv, hstage⟩
    · rw [List.getElem?_append_right hge, List.getElem?_singleton] at hs
      split at hs
      · cases hs
        exact .inr ⟨q, event, hinv⟩
      · cases hs
  | goesOn sender q stage next stands known _ senders =>
    rw [senders, List.getElem?_modify] at hs
    by_cases hi : sender = ticket
    · subst hi
      simp only [stands, if_true, Option.map_eq_map, Option.map_some, Option.some.injEq] at hs
      subst hs
      refine .inl ⟨⟨q, stage⟩, stands, hinv, ?_⟩
      rintro reason rfl
      simp at known
    · exact .inl ⟨s, by simpa [hi] using hs, hinv, hstage⟩

/-- A ticket belongs to one invocation. -/
theorem Enrolled.unique {t : Traffic} {invocation other : Invocation} {ticket : Ticket}
    (h : t.Enrolled invocation ticket) (h' : t.Enrolled other ticket) : invocation = other := by
  obtain ⟨s, hs, rfl, _⟩ := h
  obtain ⟨s', hs', rfl, _⟩ := h'
  rw [Option.some.inj (hs.symm.trans hs')]

/-- A sender that was refused stays so. -/
theorem refused_step {t : Traffic} {ticket : Ticket} {q : Queued} {reason : String}
    (h : t.senders[ticket]? = some ⟨q, .refused reason⟩) (e : Event) :
    (t.step e).senders[ticket]? = some ⟨q, .refused reason⟩ := by
  cases sends_step t e with
  | same senders => rw [senders]; exact h
  | comes q' stage _ senders =>
    rw [senders, List.getElem?_append_left (List.getElem?_eq_some_iff.1 h).1]
    exact h
  | goesOn sender q' stage next stands known _ senders =>
    have hi : sender ≠ ticket := by
      rintro rfl
      rw [h] at stands
      cases stands
      simp at known
    rw [senders, List.getElem?_modify]
    simp [hi, h]

theorem refused_run {t : Traffic} {ticket : Ticket} {q : Queued} {reason : String}
    (h : t.senders[ticket]? = some ⟨q, .refused reason⟩) (events : List Event) :
    (t.run events).senders[ticket]? = some ⟨q, .refused reason⟩ := by
  induction events generalizing t with
  | nil => exact h
  | cons e rest ih => exact ih (refused_step h e)

end FunctionHost.Traffic
