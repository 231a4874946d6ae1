-- SUMMARY: A call whose reply was taken in returns with it, as soon as it has taken its remaining steps.
import FunctionHost.Proofs.Sandbox.Course
import FunctionHost.Proofs.Sandbox.Reply

/-! # Calls that were replied to

Taking in a reply binds the call that waits for it: from then on it can return with nothing else,
whatever happens but that it goes away. -/

namespace FunctionHost

namespace Traffic

/-- A reply that somebody waits for comes last in their mail. -/
theorem messages_replies_of_waits {t : Traffic} {id : String} {i : Ticket} (reply : Reply)
    (waits : t.exchange.waiting.get? id = some i) :
    (t.step (.replies id reply)).messages i = t.messages i ++ [reply] := by
  rw [step_replies_of_waits reply waits]
  simp [messages]

end Traffic

namespace Sandbox

open Exchange

variable {s : Sandbox} {e : Event} {events : List Event} {call : Nat} {c : Call} {reply : Reply}

/-- A call that can only return with some reply: it is the first in its mail, or the call returned
    with it. -/
inductive ReplyBound (s : Sandbox) (c : Call) (reply : Reply) : Prop where
  | mailed (ticket : Ticket) (stage : c.stage = .brought ticket)
      (first : (s.traffic.messages ticket).head? = some reply)
  | returned (stage : c.stage = answer c.invocation.id reply)

/-- A call stays bound to a reply, whatever happens but that the call goes away. -/
theorem ReplyBound.step (h : s.ReplyBound c reply) (orderly : s.Orderly)
    (hc : s.calls[call]? = some c) (stays : e ≠ .drops call) :
    ∃ d, (s.step e).calls[call]? = some d ∧ d.invocation = c.invocation ∧
      (s.step e).ReplyBound d reply ∧ s.progress c ≤ (s.step e).progress d := by
  rcases orderly.call_step hc e with ⟨still, keeps⟩ | ⟨stage, unfinished, act, hmoved⟩
  · refine ⟨c, still, rfl, ?_, progress_le orderly hc e⟩
    cases h with
    | returned stage => exact .returned stage
    | mailed ticket stage first =>
      have mailed : s.traffic.messages ticket ≠ [] := by
        intro nothing
        rw [nothing] at first
        cases first
      refine .mailed ticket stage ?_
      rw [keeps (by simp [stage, CallStage.IsOver]) ticket mailed, first]
  · cases h with
    | returned ended =>
      rw [ended] at unfinished
      exact absurd (answer_isOver _ _) unfinished
    | mailed ticket brought first =>
      obtain rfl := act.answers brought first stays
      have done : (s.step e).progress ⟨c.invocation, answer c.invocation.id reply⟩ = 5 :=
        progress_of_answer rfl
      exact ⟨_, hmoved, rfl, .returned rfl, done ▸ progress_le_five s c⟩

theorem ReplyBound.progress_lt (h : s.ReplyBound c reply) (orderly : s.Orderly)
    (hc : s.calls[call]? = some c) {now : Time.Instant}
    (next : (ownSteps call now)[s.progress c]? = some e) {d : Call}
    (hd : (s.step e).calls[call]? = some d) : s.progress c < (s.step e).progress d := by
  cases h with
  | mailed ticket brought first => exact orderly.progress_lt_of_mail hc brought first next hd
  | returned stage =>
    rw [progress_of_answer stage] at next
    cases next

theorem course_replyBound (call : Nat) (reply : Reply) (now : Time.Instant) :
    Course call (fun s c => s.ReplyBound c reply) progress (ownSteps call now) where
  goesOn s e c orderly hc holds stays := by
    obtain ⟨d, hd, hinvocation, hholds, hle⟩ := holds.step orderly hc stays
    exact ⟨d, hd, hinvocation, hholds, hle, fun next => holds.progress_lt orderly hc next hd⟩

/-- A call that is bound to a reply returns with nothing else, and it returns as soon as it has taken
    its remaining steps. -/
theorem ReplyBound.comesTo (h : s.ReplyBound c reply) (orderly : s.Orderly)
    (hc : s.calls[call]? = some c) (stays : .drops call ∉ events) (now : Time.Instant)
    {outcome : Outcome} {draft : Draft}
    (hanswer : answer c.invocation.id reply = .returned outcome draft) :
    s.ComesTo call ((ownSteps call now).drop (s.progress c)) events (outcome, draft) := by
  refine (course_replyBound call reply now).comesTo orderly hc h stays ?_ ?_
  · intro t d hinvocation bound outcome' draft' hstage
    cases bound with
    | mailed _ brought => simp [brought] at hstage
    | returned stage =>
      rw [stage, hinvocation, hanswer] at hstage
      cases hstage
      rfl
  · intro t d hinvocation bound done
    cases bound with
    | mailed ticket brought => exact absurd done (Nat.not_le.2 (progress_brought_lt brought))
    | returned stage => rw [stage, hinvocation, hanswer]

/-- Taking in a reply binds the call that waits for it, which stays where it stands. -/
theorem Orderly.replyBound (orderly : s.Orderly) (hc : s.calls[call]? = some c) {ticket : Ticket}
    (brought : c.stage = .brought ticket)
    (waits : s.exchange.waiting.get? c.invocation.id = some ticket) {body : Bytes}
    (accepted : s.acceptedReply? e = some (c.invocation.id, body)) :
    (s.step e).calls[call]? = some c ∧ ∃ reply, (s.step e).ReplyBound c reply ∧
      answer c.invocation.id reply = .returned .served ⟨some .ok, body⟩ := by
  cases transition s e with
  | passes _ _ silent => cases silent.symm.trans accepted
  | turnedAway _ event | reserves _ event =>
    subst event
    cases accepted
  | acts _ _ _ _ _ act => cases act.silent.symm.trans accepted
  | replies id bytes reply other accepted' posted waits' traffic calls _ =>
    cases accepted'.symm.trans accepted
    obtain rfl : other = ticket := Option.some.inj (waits'.symm.trans waits)
    refine ⟨calls ▸ hc, reply, .mailed other brought ?_, ?_⟩
    · rw [traffic, Traffic.messages_replies_of_waits reply waits,
        orderly.sound.messages_of_waits waits]
      rfl
    · rcases posted with rfl | rfl <;> rfl

/-- A call listens for the reply to its invocation: it has brought it, and the exchange keeps its
    ticket for the reply. -/
def Listens (s : Sandbox) (call : Nat) (c : Call) : Prop :=
  s.calls[call]? = some c ∧ ∃ ticket, c.stage = .brought ticket ∧
    s.exchange.waiting.get? c.invocation.id = some ticket

/-- A call that listens when a reply to it is taken in returns with nothing else, and it returns as
    soon as it has taken the steps it had left. -/
theorem Listens.served (h : s.Listens call c) (orderly : s.Orderly) {body : Bytes}
    (accepted : s.acceptedReply? e = some (c.invocation.id, body)) (stays : .drops call ∉ events)
    (now : Time.Instant) :
    (s.step e).ComesTo call ((ownSteps call now).drop (s.progress c)) events
      (.served, ⟨some .ok, body⟩) := by
  obtain ⟨hc, ticket, brought, waits⟩ := h
  obtain ⟨still, reply, bound, hanswer⟩ := orderly.replyBound hc brought waits accepted
  have comes := bound.comesTo (orderly.step e) still stays now hanswer
  refine ⟨comes.only, fun steps => comes.ends ?_⟩
  exact (List.drop_sublist_drop_left _ (progress_le orderly hc e)).trans steps

end Sandbox

end FunctionHost
