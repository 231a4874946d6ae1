-- SUMMARY: How a call goes on: what its steps keep, and that it comes to the end of the steps it has left.
import FunctionHost.Proofs.Sandbox.Reservation
import FunctionHost.Proofs.Schedule

/-! # The course of a call

An event lets a call take its next step or leaves it where it stands. What its steps keep holds of
the call for ever unless it goes away, and when steps of its own lead it on, the call comes to the
end of them as soon as it has taken those that were left, whatever happens in between. Once a reply
was mailed to a call, nothing takes it away, and the call can do nothing but return with it. -/

namespace FunctionHost

namespace Traffic

open Exchange

variable {t : Traffic}

/-- How far a sender has come since it registered. -/
def sent (t : Traffic) (i : Ticket) : Nat :=
  match t.senders[i]?.map Sender.stage with
  | some .enrolled => 0
  | some .queued => 1
  | _ => 2

theorem sent_le (t : Traffic) (i : Ticket) : t.sent i ≤ 2 := by
  simp only [sent]
  split <;> omega

theorem sent_step {i : Ticket} (h : i < t.senders.length) (e : Event) :
    t.sent i ≤ (t.step e).sent i := by
  cases sends_step t e with
  | same senders => exact Nat.le_of_eq (by rw [sent, sent, senders])
  | comes q stage _ senders =>
    exact Nat.le_of_eq (by rw [sent, sent, senders, List.getElem?_append_left h])
  | goesOn sender q stage next stands known moved senders =>
    rw [sent, sent, senders, List.getElem?_modify]
    by_cases hi : sender = i
    · subst hi
      rcases known with rfl | rfl <;> rcases moved with rfl | rfl <;> simp [stands]
    · simp [hi]

/-- A sender that goes on with its next step has come further. -/
theorem sent_lt_of_moves {t' : Traffic} {i : Ticket} {q : Queued} {stage next : Sending}
    (stands : t.senders[i]? = some ⟨q, stage⟩)
    (moves : (stage = .enrolled ∧ next = .queued) ∨ (stage = .queued ∧ next = .rung))
    (senders : t'.senders = (t.moveSender i next).senders) : t.sent i < t'.sent i := by
  simp only [sent, senders, moveSender, List.getElem?_modify, stands]
  rcases moves with ⟨rfl, rfl⟩ | ⟨rfl, rfl⟩ <;> simp

end Traffic

namespace Sandbox

open Exchange

variable {s : Sandbox} {e : Event} {events : List Event} {call : Nat} {c : Call}

/-! ## One step -/

/-- An event lets a call take its next step, or it leaves the call where it stands, and its mail
    with it. -/
theorem Orderly.call_step (h : s.Orderly) (hc : s.calls[call]? = some c) (e : Event) :
    ((s.step e).calls[call]? = some c ∧ (¬ c.stage.IsOver → ∀ ticket,
      s.traffic.messages ticket ≠ [] →
      (s.step e).traffic.messages ticket = s.traffic.messages ticket)) ∨
    ∃ stage, ¬ c.stage.IsOver ∧ s.Act call c e stage (s.step e).traffic ∧
      (s.step e).calls[call]? = some ⟨c.invocation, stage⟩ := by
  have hlt : call < s.calls.length := (List.getElem?_eq_some_iff.1 hc).1
  cases transition s e with
  | passes events _ _ traffic calls _ _ =>
    refine .inl ⟨calls ▸ hc, fun _ ticket mailed => ?_⟩
    rw [traffic, (h.sound.gone_of_messages mailed).run]
  | replies _ _ _ _ _ _ _ traffic calls _ =>
    refine .inl ⟨calls ▸ hc, fun _ ticket mailed => ?_⟩
    rw [traffic, ((h.sound.gone_of_messages mailed).step _).2]
  | turnedAway _ _ _ traffic calls _ | reserves _ _ _ traffic calls _ =>
    refine .inl ⟨?_, fun _ ticket _ => by rw [traffic]⟩
    rw [calls, List.getElem?_append_left hlt, hc]
  | acts other d stage stands unfinished act calls _ _ =>
    by_cases hother : other = call
    · subst hother
      obtain rfl : d = c := Option.some.inj (stands.symm.trans hc)
      refine .inr ⟨stage, unfinished, act, ?_⟩
      rw [calls, moved, List.getElem?_modify]
      simp [stands]
    · -- Only one call is not over, so it is the one that acts.
      refine .inl ⟨?_, fun active => ?_⟩
      · rw [calls, moved, List.getElem?_modify]
        simp [hother, hc]
      · exact absurd (h.unique stands hc unfinished active) hother

/-- A call that came once stays on record with its invocation. -/
theorem Orderly.call_run (h : s.Orderly) (hc : s.calls[call]? = some c) (events : List Event) :
    ∃ d, (s.run events).calls[call]? = some d ∧ d.invocation = c.invocation := by
  induction events generalizing s c with
  | nil => exact ⟨c, hc, rfl⟩
  | cons e rest ih =>
    rcases h.call_step hc e with ⟨still, -⟩ | ⟨stage, -, -, hmoved⟩
    · exact ih (h.step e) still
    · exact ih (c := ⟨c.invocation, stage⟩) (h.step e) hmoved

theorem calls_moveCall {t : Sandbox} (hc : t.calls[call]? = some c) (stage : CallStage) :
    (t.moveCall call stage).calls[call]? = some ⟨c.invocation, stage⟩ := by
  simp [moveCall, hc]

/-! ## Whole courses -/

/-- Over some events a call comes to a result: it returns with nothing else, and it has returned once
    its own steps have occurred among them. -/
structure ComesTo (s : Sandbox) (call : Nat) (own events : List Event) (result : Outcome × Draft) :
    Prop where
  only : ∀ other, (s.run events).returned? call = some other → other = result
  ends : own.Sublist events → (s.run events).returned? call = some result

/-- The course of a call: a condition that each of its steps keeps, and steps of its own that lead
    it on, with how many of them it has taken. No step of others takes it back. -/
structure Course (call : Nat) (Holds : Sandbox → Call → Prop) (taken : Sandbox → Call → Nat)
    (own : List Event) : Prop where
  goesOn : ∀ (s : Sandbox) (e : Event) (c : Call), s.Orderly → s.calls[call]? = some c →
    Holds s c → e ≠ .drops call →
    ∃ d, (s.step e).calls[call]? = some d ∧ d.invocation = c.invocation ∧ Holds (s.step e) d ∧
      taken s c ≤ taken (s.step e) d ∧ (own[taken s c]? = some e → taken s c < taken (s.step e) d)

/-- A sandbox in which a condition holds of the call with a given invocation. -/
def Attended (call : Nat) (invocation : Invocation) (Holds : Sandbox → Call → Prop)
    (s : Sandbox) : Prop :=
  s.Orderly ∧ ∃ c, s.calls[call]? = some c ∧ c.invocation = invocation ∧ Holds s c

/-- How many of its steps a call has taken, if there is such a call. -/
def takenBy (call : Nat) (taken : Sandbox → Call → Nat) (s : Sandbox) : Nat :=
  s.calls[call]?.elim 0 (taken s)

section Course

variable {Holds : Sandbox → Call → Prop} {taken : Sandbox → Call → Nat} {own : List Event}

theorem Course.advances (h : Course call Holds taken own) (invocation : Invocation) :
    Schedule.Advances Sandbox.step (Attended call invocation Holds) (· ≠ .drops call)
      (takenBy call taken) own := by
  constructor
  · rintro s e ⟨orderly, c, hc, rfl, holds⟩ stays
    obtain ⟨d, hd, hinvocation, hholds, -, -⟩ := h.goesOn s e c orderly hc holds stays
    exact ⟨orderly.step e, d, hd, hinvocation, hholds⟩
  · rintro s e ⟨orderly, c, hc, -, holds⟩ stays
    obtain ⟨d, hd, -, -, hle, -⟩ := h.goesOn s e c orderly hc holds stays
    simpa [takenBy, hc, hd] using hle
  · rintro s e ⟨orderly, c, hc, -, holds⟩ stays next
    obtain ⟨d, hd, -, -, -, hlt⟩ := h.goesOn s e c orderly hc holds stays
    simp only [takenBy, hc, hd, Option.elim_some] at next ⊢
    exact hlt next

/-- What the steps of a call keep holds after any events, unless the call goes away, and the call has
    come to the end of its own steps once those that were left have occurred. -/
theorem Course.run (h : Course call Holds taken own) (orderly : s.Orderly)
    (hc : s.calls[call]? = some c) (holds : Holds s c) (stays : .drops call ∉ events) :
    ∃ d, (s.run events).calls[call]? = some d ∧ d.invocation = c.invocation ∧
      Holds (s.run events) d ∧
      ((own.drop (taken s c)).Sublist events → own.length ≤ taken (s.run events) d) := by
  have attended : Attended call c.invocation Holds s := ⟨orderly, c, hc, rfl, holds⟩
  have fair : ∀ e ∈ events, e ≠ .drops call := by
    rintro e he rfl
    exact stays he
  obtain ⟨-, d, hd, hinvocation, hholds⟩ :=
    (h.advances c.invocation).preserves_all attended fair
  refine ⟨d, hd, hinvocation, hholds, fun steps => ?_⟩
  have done : own.length ≤ takenBy call taken (s.run events) :=
    (h.advances c.invocation).completes attended fair (by simpa [takenBy, hc] using steps)
  rwa [takenBy, show (s.run events).calls[call]? = some d from hd] at done

/-- A course whose condition allows for one result only, and for nothing but that at its end, comes
    to this result. -/
theorem Course.comesTo (h : Course call Holds taken own) (orderly : s.Orderly)
    (hc : s.calls[call]? = some c) (holds : Holds s c) (stays : .drops call ∉ events)
    {outcome : Outcome} {draft : Draft}
    (only : ∀ (t : Sandbox) (d : Call), d.invocation = c.invocation → Holds t d →
      ∀ outcome' draft', d.stage = .returned outcome' draft' → (outcome', draft') = (outcome, draft))
    (ends : ∀ (t : Sandbox) (d : Call), d.invocation = c.invocation → Holds t d →
      own.length ≤ taken t d → d.stage = .returned outcome draft) :
    s.ComesTo call (own.drop (taken s c)) events (outcome, draft) := by
  obtain ⟨d, hd, hinvocation, hholds, hdone⟩ := h.run orderly hc holds stays
  constructor
  · rintro ⟨outcome', draft'⟩ returned
    exact only _ d hinvocation hholds outcome' draft' (stage_of_returned? hd returned)
  · intro steps
    have hstage := ends _ d hinvocation hholds (hdone steps)
    simp [returned?, callStage?, hd, hstage]

end Course

/-! ## Progress -/

/-- How many of its steps a call has taken, of five. -/
def progress (s : Sandbox) (c : Call) : Nat :=
  match c.stage with
  | .reserved => 0
  | .admitted => 1
  | .brought ticket => 2 + s.traffic.sent ticket
  | _ => 5

/-- The steps that a call takes in order to return. -/
def ownSteps (call : Nat) (now : Time.Instant) : List Event :=
  [.checks call, .brings call now, .queues call, .rings call, .hears call]

theorem sent_step {ticket : Ticket} (h : ticket < s.traffic.senders.length) (e : Event) :
    s.traffic.sent ticket ≤ (s.step e).traffic.sent ticket := by
  refine (preserved_step (fun t => ticket < t.senders.length ∧
    s.traffic.sent ticket ≤ t.sent ticket) ⟨h, Nat.le_refl _⟩ ?_ (fun _ _ ht => ht) e).2
  rintro t v _ ⟨hlt, hsent⟩
  exact ⟨Nat.lt_of_lt_of_le hlt (Traffic.length_senders_step t v),
    Nat.le_trans hsent (Traffic.sent_step hlt v)⟩

/-- A call that stands where it stands loses no progress. -/
theorem progress_le (orderly : s.Orderly) (hc : s.calls[call]? = some c) (e : Event) :
    s.progress c ≤ (s.step e).progress c := by
  cases hstage : c.stage with
  | brought ticket =>
    have hlt := (orderly.brought call c ticket hc hstage).1.lt_length
    simpa [progress, hstage] using sent_step hlt e
  | reserved | admitted | expired | forgotten | returned | dropped => simp [progress, hstage]

theorem progress_le_five (s : Sandbox) (c : Call) : s.progress c ≤ 5 := by
  cases hstage : c.stage with
  | brought ticket =>
    have hsent := s.traffic.sent_le ticket
    simp only [progress, hstage]
    omega
  | reserved | admitted | expired | forgotten | returned | dropped => simp [progress, hstage]

theorem progress_brought_lt {ticket : Ticket} (brought : c.stage = .brought ticket) :
    s.progress c < 5 := by
  have hsent := s.traffic.sent_le ticket
  simp only [progress, brought]
  omega

theorem progress_of_answer {id : String} {reply : Reply} (answered : c.stage = answer id reply) :
    s.progress c = 5 := by
  rw [progress, answered]
  cases reply <;> rfl

/-! ## Calls that have mail -/

section Mailed

variable {ticket : Ticket} {reply : Reply}

theorem answer_isOver (id : String) (reply : Reply) : (answer id reply).IsOver := by
  cases reply <;> trivial

/-- What a call does next that has mail: it returns with the first of it. -/
theorem Act.answers {stage : CallStage} {t : Traffic} (act : s.Act call c e stage t)
    (brought : c.stage = .brought ticket)
    (first : (s.traffic.messages ticket).head? = some reply) (stays : e ≠ .drops call) :
    stage = answer c.invocation.id reply := by
  have found := Traffic.inbox_eq_reply_iff.2 first
  have same {other : Ticket} (stage : c.stage = .brought other) : other = ticket :=
    CallStage.brought.inj (stage.symm.trans brought)
  cases act with
  | hears other reply' stage found' =>
    obtain rfl := same stage
    rw [Inbox.reply.inj (found'.symm.trans found)]
  | hearsNothing other stage closed =>
    obtain rfl := same stage
    cases closed.symm.trans found
  | expires other stage unread =>
    obtain rfl := same stage
    cases unread.symm.trans found
  | failsCheck stage | passesCheck stage | isRefused _ _ stage | enrolls _ stage | forgets stage
  | withdraws stage => simp [stage] at brought
  | drops => exact absurd rfl stays

/-- A call that has mail makes progress with its next step. -/
theorem Orderly.progress_lt_of_mail (orderly : s.Orderly) (hc : s.calls[call]? = some c)
    (brought : c.stage = .brought ticket)
    (first : (s.traffic.messages ticket).head? = some reply) {now : Time.Instant}
    (next : (ownSteps call now)[s.progress c]? = some e) {d : Call}
    (hd : (s.step e).calls[call]? = some d) : s.progress c < (s.step e).progress d := by
  obtain ⟨⟨q, sending⟩, hsender, _, unrefused⟩ := (orderly.brought call c ticket hc brought).1
  -- As long as it only queues its invocation and rings, the call stands where it stands.
  have passes {v : Traffic.Event} {stage : Sending} (hstep : s.step e = s.passing v)
      (moves : (sending = .enrolled ∧ stage = .queued) ∨ (sending = .queued ∧ stage = .rung))
      (senders : (s.traffic.step v).senders = (s.traffic.moveSender ticket stage).senders) :
      s.progress c < (s.step e).progress d := by
    rw [hstep] at hd ⊢
    obtain rfl : c = d := Option.some.inj (hc.symm.trans hd)
    have hsent := Traffic.sent_lt_of_moves hsender moves senders
    simpa [progress, brought, passing] using hsent
  cases sending with
  | refused reason => exact absurd rfl (unrefused reason)
  | enrolled =>
    have hprogress : s.progress c = 2 := by simp [progress, brought, Traffic.sent, hsender]
    rw [hprogress] at next
    cases next
    refine passes (v := .queues ticket) ?_ (.inl ⟨rfl, rfl⟩) ?_
    · simp [Sandbox.step, stepCall_some hc, brought]
    · simp [Traffic.step, hsender, Traffic.moveSender]
  | queued =>
    have hprogress : s.progress c = 3 := by simp [progress, brought, Traffic.sent, hsender]
    rw [hprogress] at next
    cases next
    refine passes (v := .rings ticket) ?_ (.inr ⟨rfl, rfl⟩) ?_
    · simp [Sandbox.step, stepCall_some hc, brought]
    · simp [Traffic.step, hsender, Traffic.moveSender]
  | rung =>
    have hprogress : s.progress c = 4 := by simp [progress, brought, Traffic.sent, hsender]
    rw [hprogress] at next
    cases next
    have rung : s.hasRung ticket := by simp [hasRung, hsender]
    rw [step_hears_of_reply hc brought rung (Traffic.inbox_eq_reply_iff.2 first)] at hd ⊢
    have hstage : d.stage = answer c.invocation.id reply := by
      rw [← Option.some.inj ((calls_moveCall hc _).symm.trans hd)]
    rw [hprogress, progress_of_answer hstage]
    exact Nat.lt_succ_self 4

end Mailed

end Sandbox

end FunctionHost
