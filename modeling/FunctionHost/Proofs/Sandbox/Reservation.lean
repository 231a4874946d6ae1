-- SUMMARY: One call at a time: the call that is not over holds the reservation, and it has a reply to come.
import FunctionHost.Proofs.Exchange.Fate
import FunctionHost.Proofs.Sandbox.Step

/-! # The reservation

A call that is not over holds the reservation, so there is at most one. If it has brought its
invocation, then it waits for the reply or has it in the mail: nobody else gives up on it, and
nobody else brings an invocation in the meantime. -/

namespace FunctionHost

namespace Traffic

open Exchange

/-! ## Tickets with a reply to come -/

/-- A ticket waits for a reply, or a reply was mailed to it. -/
def Expects (t : Traffic) (id : String) (i : Ticket) : Prop :=
  t.exchange.waiting.get? id = some i ∨ t.messages i ≠ []

variable {t : Traffic} {id : String} {i : Ticket}

theorem mem_messages_iff {reply : Reply} :
    reply ∈ t.messages i ↔ (i, reply) ∈ t.exchange.mail := by
  simp [messages]

theorem inbox_eq_reply_iff {reply : Reply} :
    t.exchange.inbox i = .reply reply ↔ (t.messages i).head? = some reply := by
  have hfind : (t.exchange.mail.find? fun letter => letter.1 = i).map Prod.snd
      = (t.messages i).head? := by
    simp [messages, List.head?_map, List.head?_filter]
  rw [← hfind]
  simp only [inbox]
  split
  · next j found hmail => simp [hmail]
  · next hmail =>
    rw [hmail]
    split <;> simp

theorem Sound.gone_of_messages (h : t.Sound) (mailed : t.messages i ≠ []) : t.Gone i := by
  obtain ⟨reply, hreply⟩ := List.exists_mem_of_ne_nil _ mailed
  exact h.mailed i reply (mem_messages_iff.1 hreply)

/-- A reply stays to come unless somebody gives up on it or brings an invocation with the same
    id. -/
theorem Expects.step (h : t.Sound) (expects : t.Expects id i) {e : Event} (keeps : e ≠ .forgets id)
    (other : ∀ q, e = .brings q → q.invocation.id ≠ id) : (t.step e).Expects id i := by
  rcases expects with waits | mailed
  · cases h.next waits e with
    | waits waits' => exact .inl waits'
    | answered reply _ _ messages => exact .inr (by simp [messages])
    | told exit r _ _ _ messages => exact .inr (by simp [messages])
    | gaveUp event => exact absurd event keeps
    | displaced q event same => exact absurd same (other q event)
  · exact .inr (by rw [((h.gone_of_messages mailed).step e).2]; exact mailed)

/-- Events that bring nothing and give up on nothing leave every reply to come. -/
theorem Expects.run_neutral (h : t.Sound) (expects : t.Expects id i) {events : List Event}
    (neutral : ∀ event ∈ events, event.IsNeutral) : (t.run events).Expects id i := by
  induction events generalizing t with
  | nil => exact expects
  | cons e rest ih =>
    obtain ⟨hneutral, hrest⟩ := List.forall_mem_cons.1 neutral
    refine ih (h.step e) (expects.step h ?_ ?_) hrest
    · rintro rfl
      exact hneutral
    · rintro q rfl
      exact hneutral.elim

/-- Reading mail keeps the traffic sound. -/
theorem Sound.collect (h : t.Sound) (i : Ticket) :
    ({ t with exchange := t.exchange.collect i } : Traffic).Sound where
  registered := h.registered
  mailed j reply hj := h.mailed j reply (List.mem_filter.1 hj).1
  exited := h.exited
  known := h.known
  drained := h.drained

end Traffic

namespace Sandbox

open Exchange

/-! ## Calls after an event -/

variable {s : Sandbox} {e : Event}

theorem getElem?_append_call {calls : List Call} {last c : Call} {call : Nat}
    (h : (calls ++ [last])[call]? = some c) :
    calls[call]? = some c ∨ (call = calls.length ∧ c = last) := by
  rcases Nat.lt_or_ge call calls.length with hlt | hge
  · rw [List.getElem?_append_left hlt] at h
    exact .inl h
  · rw [List.getElem?_append_right hge, List.getElem?_singleton] at h
    split at h
    · next heq => exact .inr ⟨by omega, (Option.some.inj h).symm⟩
    · cases h

theorem getElem?_moved {call other : Nat} {c d : Call} {stage : CallStage}
    (stands : s.calls[call]? = some c) (h : (s.moved call stage)[other]? = some d) :
    (other = call ∧ d = ⟨c.invocation, stage⟩) ∨ (other ≠ call ∧ s.calls[other]? = some d) := by
  rw [moved, List.getElem?_modify] at h
  by_cases hcall : call = other
  · subst hcall
    simp only [stands, if_true, Option.map_eq_map, Option.map_some, Option.some.injEq] at h
    exact .inl ⟨rfl, h.symm⟩
  · simp only [hcall, if_false, Option.map_eq_map, Option.map_id_fun', id] at h
    exact .inr ⟨Ne.symm hcall, h⟩

/-! ## The invariant -/

/-- What holds of a sandbox at any time. -/
structure Orderly (s : Sandbox) : Prop where
  sound : s.traffic.Sound
  held : ∀ (call : Nat) (c : Call), s.calls[call]? = some c → ¬ c.stage.IsOver →
    s.holder = some call
  brought : ∀ (call : Nat) (c : Call) (ticket : Ticket), s.calls[call]? = some c →
    c.stage = .brought ticket →
    s.traffic.Enrolled c.invocation ticket ∧ s.traffic.Expects c.invocation.id ticket

theorem Orderly.fresh : fresh.Orderly where
  sound := .fresh
  held call c h := by simp [Sandbox.fresh] at h
  brought call c ticket h := by simp [Sandbox.fresh] at h

/-- Two calls that are not over are the same. -/
theorem Orderly.unique (h : s.Orderly) {call other : Nat} {c d : Call}
    (hc : s.calls[call]? = some c) (hd : s.calls[other]? = some d) (hcs : ¬ c.stage.IsOver)
    (hds : ¬ d.stage.IsOver) : call = other :=
  Option.some.inj ((h.held call c hc hcs).symm.trans (h.held other d hd hds))

theorem Orderly.sound_step (h : s.Orderly) (e : Event) : (s.step e).traffic.Sound :=
  preserved_step Traffic.Sound h.sound (fun _ v _ sound => sound.step v)
    (fun _ i sound => sound.collect i) e

theorem Orderly.held_step (h : s.Orderly) (e : Event) (call : Nat) (c : Call)
    (hc : (s.step e).calls[call]? = some c) (active : ¬ c.stage.IsOver) :
    (s.step e).holder = some call := by
  cases transition s e with
  | passes events _ _ _ calls holder => exact holder ▸ h.held call c (calls ▸ hc) active
  | replies id bytes reply ticket _ _ _ _ calls holder =>
    exact holder ▸ h.held call c (calls ▸ hc) active
  | turnedAway invocation _ _ _ calls holder =>
    rcases getElem?_append_call (calls ▸ hc) with hold | ⟨_, rfl⟩
    · exact holder ▸ h.held call c hold active
    · exact absurd trivial active
  | reserves invocation _ free _ calls holder =>
    rcases getElem?_append_call (calls ▸ hc) with hold | ⟨rfl, _⟩
    · have := h.held call c hold active
      simp [free] at this
    · exact holder
  | acts other d stage stands unfinished _ calls keeps _ =>
    rcases getElem?_moved stands (calls ▸ hc) with ⟨rfl, rfl⟩ | ⟨hne, hold⟩
    · rw [keeps active, h.held call d stands unfinished]
    · exact absurd (h.unique hold stands active unfinished) hne

/-- Bringing an invocation while the function runs gets a ticket with a reply to come. -/
theorem Act.enrolled {call : Nat} {c : Call} {ticket : Ticket} {t : Traffic}
    (act : s.Act call c e (.brought ticket) t) :
    t.Enrolled c.invocation ticket ∧ t.Expects c.invocation.id ticket := by
  generalize hstage : CallStage.brought ticket = stage at act
  cases act with
  | hears _ reply => cases reply <;> simp [answer] at hstage
  | failsCheck | passesCheck | isRefused | hearsNothing | expires | forgets | withdraws | drops =>
    cases hstage
  | enrolls now _ running =>
    cases hstage
    rw [Traffic.step_brings_of_running _ running]
    refine ⟨⟨⟨.ofInvocation c.invocation now s.timeout, .enrolled⟩, ?_, rfl, by simp⟩, .inl ?_⟩
    · simp
    · simp [Queued.ofInvocation]

theorem Orderly.brought_step (h : s.Orderly) (e : Event) (call : Nat) (c : Call) (ticket : Ticket)
    (hc : (s.step e).calls[call]? = some c) (hstage : c.stage = .brought ticket) :
    (s.step e).traffic.Enrolled c.invocation ticket ∧
      (s.step e).traffic.Expects c.invocation.id ticket := by
  cases transition s e with
  | passes events neutral _ traffic calls _ =>
    obtain ⟨henrolled, hexpects⟩ := h.brought call c ticket (calls ▸ hc) hstage
    rw [traffic]
    exact ⟨henrolled.run events, hexpects.run_neutral h.sound neutral⟩
  | replies id bytes reply ticket' _ _ _ traffic calls _ =>
    obtain ⟨henrolled, hexpects⟩ := h.brought call c ticket (calls ▸ hc) hstage
    rw [traffic]
    exact ⟨henrolled.step _, hexpects.step h.sound (by simp) (by simp)⟩
  | turnedAway invocation _ _ traffic calls _ =>
    rw [traffic]
    rcases getElem?_append_call (calls ▸ hc) with hold | ⟨_, rfl⟩
    · exact h.brought call c ticket hold hstage
    · cases hstage
  | reserves invocation _ _ traffic calls _ =>
    rw [traffic]
    rcases getElem?_append_call (calls ▸ hc) with hold | ⟨_, rfl⟩
    · exact h.brought call c ticket hold hstage
    · cases hstage
  | acts other d stage stands unfinished act calls _ _ =>
    rcases getElem?_moved stands (calls ▸ hc) with ⟨rfl, rfl⟩ | ⟨hne, hold⟩
    · obtain rfl : stage = .brought ticket := hstage
      exact act.enrolled
    · exact absurd (h.unique hold stands (by simp [hstage, CallStage.IsOver]) unfinished) hne

theorem Orderly.step (h : s.Orderly) (e : Event) : (s.step e).Orderly where
  sound := h.sound_step e
  held := h.held_step e
  brought := h.brought_step e

theorem Orderly.run (h : s.Orderly) (events : List Event) : (s.run events).Orderly := by
  induction events generalizing s with
  | nil => exact h
  | cons e rest ih => exact ih (h.step e)

end Sandbox

end FunctionHost
