-- SUMMARY: What a call that is dropped leaves behind at the exchange, and how long it stays there.
import FunctionHost.Proofs.Exchange.Sight
import FunctionHost.Proofs.Sandbox.LateReply
import Mathlib.Data.List.Induction

/-! # Calls that are dropped

A call whose time is over has the exchange forget about it, and takes its invocation out of the line,
before it gives back the reservation. A call that is dropped only gives back the reservation. Its
ticket goes on waiting until a reply is taken in, an exit is told, or another call registers under
the same id, and its invocation stays in the line until it is handed out or an exit clears the
line. -/

namespace FunctionHost

namespace Sandbox

open Exchange

variable {s : Sandbox} {e : Event} {events : List Event} {id : String} {ticket : Ticket}

/-! ## Calls before they register -/

/-- A call registers for the reply to an invocation with some id. -/
def Registers (s : Sandbox) (e : Event) (id : String) : Prop :=
  ∃ (call : Nat) (c : Call) (now : Time.Instant), e = .brings call now ∧
    s.calls[call]? = some c ∧ c.stage = .admitted ∧ c.invocation.id = id ∧
    s.exchange.exitReason = none

/-- No call has registered under an id and is not over: one with this id has not brought its
    invocation yet. -/
def Unclaimed (s : Sandbox) (id : String) : Prop :=
  ∀ (call : Nat) (c : Call), s.calls[call]? = some c → c.invocation.id = id → ¬ c.stage.IsOver →
    c.stage = .reserved ∨ c.stage = .admitted

/-- What a call may come to that has not registered yet. -/
theorem Act.early_stage {call : Nat} {c : Call} {stage : CallStage} {t : Traffic}
    (act : s.Act call c e stage t) (stands : s.calls[call]? = some c)
    (early : c.stage = .reserved ∨ c.stage = .admitted) :
    stage.IsOver ∨ stage = .admitted ∨ s.Registers e c.invocation.id := by
  cases act with
  | failsCheck | isRefused | drops => exact .inl trivial
  | passesCheck => exact .inr (.inl rfl)
  | enrolls now hstage running =>
    exact .inr (.inr ⟨call, c, now, rfl, stands, hstage, rfl, running⟩)
  | hears _ _ hstage | hearsNothing _ hstage | expires _ hstage | forgets hstage
  | withdraws hstage => simp [hstage] at early

theorem Unclaimed.step (h : s.Unclaimed id) (unregistered : ¬ s.Registers e id) :
    (s.step e).Unclaimed id := by
  intro call c hc hid active
  cases transition s e with
  | passes _ _ _ _ calls _ _ | replies _ _ _ _ _ _ _ _ calls _ =>
    exact h call c (calls ▸ hc) hid active
  | turnedAway _ _ _ _ calls _ =>
    rcases getElem?_append_call (calls ▸ hc) with hold | ⟨_, rfl⟩
    · exact h call c hold hid active
    · exact absurd trivial active
  | reserves _ _ _ _ calls _ =>
    rcases getElem?_append_call (calls ▸ hc) with hold | ⟨_, rfl⟩
    · exact h call c hold hid active
    · exact .inl rfl
  | acts other d stage stands unfinished act calls _ _ =>
    rcases getElem?_moved stands (calls ▸ hc) with ⟨_, rfl⟩ | ⟨_, hold⟩
    · rcases act.early_stage stands (h other d stands hid unfinished) with ended | admitted | claims
      · exact absurd ended active
      · exact .inr admitted
      · exact absurd (hid ▸ claims) unregistered
    · exact h call c hold hid active

/-- Once the reservation is given back, all ids are free. -/
theorem Orderly.unclaimed_of_free (h : s.Orderly) (free : s.holder = none) (id : String) :
    s.Unclaimed id := by
  intro call c hc _ active
  have held := h.held call c hc active
  simp [free] at held

/-! ## Tickets that are left behind -/

/-- An event ends the waiting for the reply to an invocation: a reply is taken in, or everyone is told
    of an exit, or another call registers under the same id. -/
inductive EndsWait (s : Sandbox) (e : Event) (id : String) : Prop where
  | answered (body : Bytes) (accepted : s.acceptedReply? e = some (id, body))
  | told (drained : (s.step e).traffic.Drained)
  | displaced (registers : s.Registers e id)

/-- After some events, a ticket is left behind: a call was dropped while the ticket waited for the
    reply to its invocation, and nothing has ended the waiting since. -/
def LeftBehind (events : List Event) (id : String) (ticket : Ticket) : Prop :=
  ∃ sooner call c later, events = sooner ++ .drops call :: later ∧
    (fresh.run sooner).calls[call]? = some c ∧ c.invocation.id = id ∧ c.stage.Awaits ticket ∧
    (fresh.run sooner).exchange.waiting.get? id = some ticket ∧
    ∀ before e after, later = before ++ e :: after →
      ¬ (fresh.run (sooner ++ .drops call :: before)).EndsWait e id

theorem LeftBehind.snoc (h : LeftBehind events id ticket)
    (kept : ¬ (fresh.run events).EndsWait e id) : LeftBehind (events ++ [e]) id ticket := by
  obtain ⟨sooner, call, c, later, rfl, stands, hid, awaits, waits, unended⟩ := h
  refine ⟨sooner, call, c, later ++ [e], by simp, stands, hid, awaits, waits, ?_⟩
  intro before e' after hsplit
  rcases List.eq_nil_or_concat after with rfl | ⟨after, last, rfl⟩
  · obtain ⟨rfl, rfl⟩ : later = before ∧ e = e' := by simpa using hsplit
    exact kept
  · have hinit : later ++ [e] = (before ++ e' :: after) ++ [last] := by simpa using hsplit
    exact unended before e' after (List.append_inj_left' hinit rfl)

/-- Where the waiting ends, the ticket waits no longer. -/
theorem EndsWait.not_waits (h : s.EndsWait e id) (orderly : s.Orderly)
    (waits : s.exchange.waiting.get? id = some ticket) :
    (s.step e).exchange.waiting.get? id ≠ some ticket := by
  cases h with
  | answered body accepted =>
    change (s.step e).traffic.exchange.waiting.get? id ≠ some ticket
    cases transition s e with
    | passes _ _ silent _ _ _ _ => simp [accepted] at silent
    | replies other bytes reply ticket' accepted' _ waits' traffic _ _ =>
      obtain ⟨rfl, -⟩ : other = id ∧ bytes = body := by simpa [accepted] using accepted'.symm
      rw [traffic, Traffic.step_replies_of_waits reply waits']
      simp
    | turnedAway _ event _ _ _ _ | reserves _ event _ _ _ _ =>
      subst event
      cases accepted
    | acts _ _ _ _ _ act _ _ _ => simp [act.silent] at accepted
  | told drained =>
    have hempty := (orderly.step e).sound.drained drained
    change (s.step e).traffic.exchange.waiting.get? id ≠ some ticket
    simp [hempty]
  | displaced registers =>
    obtain ⟨call, c, now, rfl, stands, admitted, rfl, running⟩ := registers
    rw [step_brings_of_running stands admitted now running]
    change (s.traffic.step _).exchange.waiting.get? c.invocation.id ≠ some ticket
    rw [Traffic.step_brings_of_running _ running]
    have hlt := orderly.sound.lt_of_waits waits
    simpa [Queued.ofInvocation] using Nat.ne_of_gt hlt

/-! ## Whoever waits while the reservation is free -/

section Act

variable {call : Nat} {c : Call} {stage : CallStage} {t : Traffic}

/-- A ticket that waits after a call took a step waited before, unless the call has just
    registered. -/
theorem Act.waits (act : s.Act call c e stage t) (waits : t.exchange.waiting.get? id = some ticket) :
    s.exchange.waiting.get? id = some ticket ∨ c.invocation.id = id ∧ stage = .brought ticket := by
  cases act with
  | failsCheck | passesCheck | hears | hearsNothing | expires | drops => exact .inl waits
  | isRefused now reason _ exited =>
    rw [Traffic.step_brings_of_exited _ exited] at waits
    exact .inl waits
  | enrolls now _ running =>
    rw [Traffic.step_brings_of_running _ running, Dictionary.get?_insert] at waits
    split at waits
    · next hid => exact .inr ⟨hid.symm, by rw [Option.some.inj waits]⟩
    · exact .inl waits
  | forgets | withdraws => exact .inl (Traffic.waits_of_step (by simp) waits)

/-- A call that has just registered has not joined the line. -/
theorem Act.visible (act : s.Act call c e (.brought ticket) t) : t.Visible ticket := by
  generalize hstage : CallStage.brought ticket = stage at act
  cases act with
  | hears _ reply => cases reply <;> simp [answer] at hstage
  | failsCheck | passesCheck | isRefused | hearsNothing | expires | forgets | withdraws | drops =>
    cases hstage
  | enrolls now _ running =>
    cases hstage
    rw [Traffic.step_brings_of_running _ running]
    intro q joined
    simp [Traffic.Joined] at joined

/-- If a ticket of a call waits before and after a step of the call, then the call goes on to wait, or
    it is dropped. -/
theorem Orderly.awaits_act (h : s.Orderly) (stands : s.calls[call]? = some c)
    (act : s.Act call c e stage t) (awaits : c.stage.Awaits ticket)
    (before : s.exchange.waiting.get? c.invocation.id = some ticket)
    (after : t.exchange.waiting.get? c.invocation.id = some ticket) :
    stage.Awaits ticket ∨ e = .drops call := by
  cases act with
  | failsCheck hstage | passesCheck hstage | isRefused _ _ hstage | enrolls _ hstage
  | withdraws hstage => simp [hstage, CallStage.Awaits] at awaits
  | hears ticket' reply hstage found =>
    -- Whoever has mail waits no longer.
    obtain rfl : ticket' = ticket := by simpa [hstage, CallStage.Awaits] using awaits
    have mailed : (ticket', reply) ∈ s.traffic.exchange.mail :=
      Traffic.mem_messages_iff.1 (List.mem_of_mem_head? (Traffic.inbox_eq_reply_iff.1 found))
    exact absurd before ((h.sound.mailed ticket' reply mailed).2 _)
  | hearsNothing ticket' hstage closed =>
    exact absurd closed (h.brought call c ticket' stands hstage).2.inbox_ne_closed
  | expires => exact .inl (.inr rfl)
  | forgets =>
    exact absurd rfl (Dictionary.get?_of_get?_erase after).1
  | drops => exact .inr rfl

end Act

/-- Whoever waits after an event waited before, or is a call that has just registered. -/
theorem waits_of_step (waits : (s.step e).exchange.waiting.get? id = some ticket) :
    s.exchange.waiting.get? id = some ticket ∨
      ∃ (call : Nat) (c : Call), (s.step e).calls[call]? = some c ∧ c.invocation.id = id ∧
        c.stage.Awaits ticket := by
  change (s.step e).traffic.exchange.waiting.get? id = some ticket at waits
  cases transition s e with
  | passes events neutral _ traffic _ _ _ =>
    rw [traffic] at waits
    exact .inl (Traffic.waits_of_run_neutral neutral waits)
  | replies _ _ reply _ _ _ _ traffic _ _ =>
    rw [traffic] at waits
    exact .inl (Traffic.waits_of_step (by simp) waits)
  | turnedAway _ _ _ traffic _ _ | reserves _ _ _ traffic _ _ =>
    rw [traffic] at waits
    exact .inl waits
  | acts call c stage stands unfinished act calls _ _ =>
    rcases act.waits waits with before | ⟨hid, hstage⟩
    · exact .inl before
    · refine .inr ⟨call, ⟨c.invocation, stage⟩, ?_, hid, .inl hstage⟩
      rw [calls, moved, List.getElem?_modify]
      simp [stands]

/-- Whoever waits is a call that has brought its invocation, or a ticket that was left behind. -/
theorem waits_accounted (events : List Event) {id : String} {ticket : Ticket}
    (waits : (fresh.run events).exchange.waiting.get? id = some ticket) :
    (∃ (call : Nat) (c : Call), (fresh.run events).calls[call]? = some c ∧ c.invocation.id = id ∧
      c.stage.Awaits ticket) ∨ LeftBehind events id ticket := by
  induction events using List.reverseRecOn generalizing id ticket with
  | nil => simp [fresh, exchange, Traffic.fresh, Exchange.fresh] at waits
  | append_singleton events e ih =>
    have orderly : (fresh.run events).Orderly := Orderly.fresh.run events
    rw [run_append, run_cons, run_nil] at waits ⊢
    generalize hs : fresh.run events = s at orderly waits ih ⊢
    rcases waits_of_step waits with before | registered
    · rcases ih before with ⟨call, c, hc, rfl, awaits⟩ | behind
      · rcases orderly.call_step hc e with ⟨still, -⟩ | ⟨stage, -, act, hmoved⟩
        · exact .inl ⟨call, c, still, rfl, awaits⟩
        · rcases orderly.awaits_act hc act awaits before waits with goesOn | rfl
          · exact .inl ⟨call, ⟨c.invocation, stage⟩, hmoved, rfl, goesOn⟩
          · -- The call is dropped just now.
            subst hs
            exact .inr ⟨events, call, c, [], rfl, hc, rfl, awaits, before, by simp⟩
      · refine .inr (behind.snoc fun ends => ?_)
        rw [hs] at ends
        exact ends.not_waits orderly before waits
    · exact .inl registered

/-! ## What is left behind stays there -/

/-- A step of a call ends the waiting under an id only if the call registers or has registered under
    it. -/
theorem Act.keeps_waiting {call : Nat} {c : Call} {stage : CallStage} {t : Traffic}
    (act : s.Act call c e stage t) (stands : s.calls[call]? = some c)
    (waits : s.exchange.waiting.get? id = some ticket) (unregistered : ¬ s.Registers e id)
    (early : c.invocation.id = id → c.stage = .reserved ∨ c.stage = .admitted) :
    t.exchange.waiting.get? id = some ticket := by
  cases act with
  | failsCheck | passesCheck | hears | hearsNothing | expires | drops | withdraws => exact waits
  | isRefused now reason _ exited =>
    rw [Traffic.step_brings_of_exited _ exited]
    exact waits
  | enrolls now hstage running =>
    have hother : id ≠ c.invocation.id := by
      rintro rfl
      exact unregistered ⟨call, c, now, rfl, stands, hstage, rfl, running⟩
    rw [Traffic.step_brings_of_running _ running]
    exact (Dictionary.get?_insert_other _ _ hother).trans waits
  | forgets hstage =>
    have hother : id ≠ c.invocation.id := by
      rintro rfl
      simp [hstage] at early
    exact (Dictionary.get?_erase_other _ hother).trans waits

/-- A ticket that is left behind goes on waiting until something ends the waiting. -/
theorem Unclaimed.waits_step (unclaimed : s.Unclaimed id) (orderly : s.Orderly)
    (waits : s.exchange.waiting.get? id = some ticket) (unended : ¬ s.EndsWait e id) :
    (s.step e).exchange.waiting.get? id = some ticket := by
  change (s.step e).traffic.exchange.waiting.get? id = some ticket
  cases transition s e with
  | passes events neutral _ traffic _ _ _ =>
    rcases orderly.sound.waits_run_neutral waits neutral with stays | drained
    · rw [traffic]
      exact stays
    · exact absurd (.told (traffic ▸ drained)) unended
  | replies other bytes reply _ accepted _ waits' traffic _ _ =>
    have hother : id ≠ other := by
      rintro rfl
      exact unended (.answered bytes accepted)
    rw [traffic, Traffic.step_replies_of_waits reply waits', Dictionary.get?_erase_other _ hother]
    exact waits
  | turnedAway _ _ _ traffic _ _ | reserves _ _ _ traffic _ _ =>
    rw [traffic]
    exact waits
  | acts call c stage stands unfinished act _ _ _ =>
    exact act.keeps_waiting stands waits (fun registers => unended (.displaced registers))
      fun hid => unclaimed call c stands hid unfinished

theorem Unclaimed.waits_run (unclaimed : s.Unclaimed id) (orderly : s.Orderly)
    (waits : s.exchange.waiting.get? id = some ticket)
    (unended : ∀ before e after, events = before ++ e :: after → ¬ (s.run before).EndsWait e id) :
    (s.run events).exchange.waiting.get? id = some ticket := by
  induction events generalizing s with
  | nil => exact waits
  | cons e rest ih =>
    have hfirst : ¬ s.EndsWait e id := unended [] e rest rfl
    refine ih (unclaimed.step fun registers => hfirst (.displaced registers)) (orderly.step e)
      (unclaimed.waits_step orderly waits hfirst) ?_
    rintro before e' after rfl
    exact unended (e :: before) e' after rfl

/-- A call that is dropped gives back the reservation, and that is all. -/
theorem step_drops {call : Nat} {c : Call} (stands : s.calls[call]? = some c)
    (active : ¬ c.stage.IsOver) : s.step (.drops call) = s.release call .dropped := by
  cases hstage : c.stage with
  | returned | dropped => exact absurd (hstage ▸ trivial) active
  | reserved | admitted | brought | expired | forgotten =>
    simp [step, stepCall_some stands, hstage]

theorem LeftBehind.waits (h : LeftBehind events id ticket) :
    (fresh.run events).exchange.waiting.get? id = some ticket := by
  obtain ⟨sooner, call, c, later, rfl, stands, -, awaits, waits, unended⟩ := h
  have orderly : ((fresh.run sooner).step (.drops call)).Orderly := (Orderly.fresh.run sooner).step _
  rw [step_drops stands awaits.not_isOver] at orderly
  rw [run_append, run_cons, step_drops stands awaits.not_isOver]
  refine (orderly.unclaimed_of_free rfl id).waits_run orderly waits ?_
  intro before e after hlater
  have h := unended before e after hlater
  rwa [run_append, run_cons, step_drops stands awaits.not_isOver] at h

/-- While the reservation is free, just those tickets wait that were left behind. -/
theorem waits_iff_leftBehind (free : (fresh.run events).holder = none) :
    (fresh.run events).exchange.waiting.get? id = some ticket ↔ LeftBehind events id ticket := by
  constructor
  · intro waits
    rcases waits_accounted events waits with ⟨call, c, hc, -, awaits⟩ | behind
    · have held := (Orderly.fresh.run events).held call c hc awaits.not_isOver
      simp [free] at held
    · exact behind
  · exact LeftBehind.waits

/-! ## Invocations that are left behind -/

/-- The invocation of a call that waits for its reply is in sight once it has joined the line. -/
def InView (s : Sandbox) : Prop :=
  ∀ (call : Nat) (c : Call) (ticket : Ticket), s.calls[call]? = some c →
    c.stage = .brought ticket → s.traffic.Visible ticket

theorem InView.fresh : fresh.InView := by
  intro call c ticket hc
  simp [Sandbox.fresh] at hc

theorem InView.step (h : s.InView) (orderly : s.Orderly) (e : Event) : (s.step e).InView := by
  intro call c ticket hc hstage
  cases transition s e with
  | passes events neutral _ traffic calls _ _ =>
    rw [traffic]
    exact (h call c ticket (calls ▸ hc) hstage).run_neutral neutral
  | replies _ _ _ _ _ _ _ traffic calls _ =>
    rw [traffic]
    exact (h call c ticket (calls ▸ hc) hstage).step (by simp)
  | turnedAway _ _ _ traffic calls _ | reserves _ _ _ traffic calls _ =>
    rw [traffic]
    rcases getElem?_append_call (calls ▸ hc) with hold | ⟨_, rfl⟩
    · exact h call c ticket hold hstage
    · cases hstage
  | acts other d stage stands unfinished act calls _ _ =>
    rcases getElem?_moved stands (calls ▸ hc) with ⟨rfl, rfl⟩ | ⟨hne, hold⟩
    · obtain rfl : stage = .brought ticket := hstage
      exact act.visible
    · -- Only one call is not over, so nobody else acts.
      have active : ¬ c.stage.IsOver := by simp [hstage, CallStage.IsOver]
      exact absurd (orderly.unique hold stands active unfinished) hne

theorem InView.run (h : s.InView) (orderly : s.Orderly) (events : List Event) :
    (s.run events).InView := by
  induction events generalizing s with
  | nil => exact h
  | cons e rest ih => exact ih (h.step orderly e) (orderly.step e)

/-- While no call has registered under its id, an invocation stays in sight. -/
theorem Unclaimed.inSight_step {q : Queued} (unclaimed : s.Unclaimed q.invocation.id)
    (h : s.traffic.InSight q) (e : Event) : (s.step e).traffic.InSight q := by
  cases transition s e with
  | passes events neutral _ traffic _ _ _ =>
    rw [traffic]
    exact h.run_neutral neutral
  | replies _ _ _ _ _ _ _ traffic _ _ =>
    rw [traffic]
    exact h.step (by simp)
  | turnedAway _ _ _ traffic _ _ | reserves _ _ _ traffic _ _ =>
    rw [traffic]
    exact h
  | acts call c stage stands unfinished act _ _ _ =>
    generalize (s.step e).traffic = t at act
    cases act with
    | failsCheck | passesCheck | hears | hearsNothing | expires | drops => exact h
    | isRefused | enrolls | forgets => exact h.step (by simp)
    | withdraws hstage =>
      refine h.step fun event => ?_
      have hid : c.invocation.id = q.invocation.id := Traffic.Event.withdraws.inj event
      simpa [hstage] using unclaimed call c stands hid unfinished

theorem Unclaimed.inSight_run {q : Queued} (unclaimed : s.Unclaimed q.invocation.id)
    (h : s.traffic.InSight q)
    (unregistered : ∀ before e after, events = before ++ e :: after →
      ¬ (s.run before).Registers e q.invocation.id) : (s.run events).traffic.InSight q := by
  induction events generalizing s with
  | nil => exact h
  | cons e rest ih =>
    refine ih (unclaimed.step (unregistered [] e rest rfl)) (unclaimed.inSight_step h e) ?_
    rintro before e' after rfl
    exact unregistered (e :: before) e' after rfl

/-- Whoever joined the line under the ticket of a call did so with the invocation of the call. -/
theorem Orderly.invocation_of_joined (h : s.Orderly) {call : Nat} {c : Call} {q : Queued}
    (stands : s.calls[call]? = some c) (hstage : c.stage = .brought ticket)
    (joined : s.traffic.Joined ticket q) : q.invocation = c.invocation := by
  obtain ⟨sender, hsender, hinvocation, -⟩ := (h.brought call c ticket stands hstage).1
  rcases joined with hq | hq <;>
  · rw [hsender] at hq
    cases hq
    exact hinvocation

/-- The invocation of a call that is dropped while it waits for its reply stays in the line until it is
    handed out or an exit clears the line, unless another call registers under the same id. -/
theorem inSight_of_dropped {sooner later : List Event} {call : Nat} {c : Call} {q : Queued}
    (stands : (fresh.run sooner).calls[call]? = some c) (hstage : c.stage = .brought ticket)
    (joined : (fresh.run sooner).traffic.Joined ticket q)
    (unregistered : ∀ before e after, later = before ++ e :: after →
      ¬ (fresh.run (sooner ++ .drops call :: before)).Registers e c.invocation.id) :
    (fresh.run (sooner ++ .drops call :: later)).traffic.InSight q := by
  have orderly : (fresh.run sooner).Orderly := Orderly.fresh.run sooner
  have hid := orderly.invocation_of_joined stands hstage joined
  have inSight : (fresh.run sooner).traffic.InSight q :=
    InView.fresh.run .fresh sooner call c ticket stands hstage q joined
  have hstep := step_drops stands (show ¬ c.stage.IsOver by simp [hstage, CallStage.IsOver])
  have orderly' := orderly.step (.drops call)
  rw [hstep] at orderly'
  rw [run_append, run_cons, hstep]
  refine (orderly'.unclaimed_of_free rfl _).inSight_run inSight ?_
  intro before e after hlater
  have h := unregistered before e after hlater
  rwa [run_append, run_cons, hstep, ← hid] at h

/-! ## Ids of their own -/

/-- A call that is over stands where it stood for ever. -/
theorem Orderly.over_run (h : s.Orderly) {call : Nat} {c : Call} (hc : s.calls[call]? = some c)
    (ended : c.stage.IsOver) (events : List Event) : (s.run events).calls[call]? = some c := by
  induction events generalizing s with
  | nil => exact hc
  | cons e rest ih =>
    rcases h.call_step hc e with ⟨still, -⟩ | ⟨stage, active, -, -⟩
    · exact ih (h.step e) still
    · exact absurd ended active

/-- When calls come with ids of their own, nobody registers under the id of a call that was
    dropped. -/
theorem unregistered_of_distinct {sooner later : List Event} {call : Nat} {c : Call}
    (distinct : ((sooner ++ .drops call :: later).filterMap arrivedId?).Nodup)
    (stands : (fresh.run sooner).calls[call]? = some c) (active : ¬ c.stage.IsOver)
    (before : List Event) (e : Event) (after : List Event) (split : later = before ++ e :: after) :
    ¬ (fresh.run (sooner ++ .drops call :: before)).Registers e c.invocation.id := by
  rintro ⟨other, d, now, -, hd, admitted, same, -⟩
  have distinct' : ((sooner ++ .drops call :: before).filterMap arrivedId?).Nodup := by
    refine distinct.sublist (List.Sublist.filterMap _ ?_)
    rw [split]
    simp
  obtain rfl : call = other := call_unique distinct' hd stands same.symm
  have orderly : (fresh.run sooner).Orderly := Orderly.fresh.run sooner
  have dropped : ((fresh.run sooner).step (.drops call)).calls[call]?
      = some ⟨c.invocation, .dropped⟩ := by
    rw [step_drops stands active]
    exact calls_moveCall stands .dropped
  have still := (orderly.step (.drops call)).over_run dropped trivial before
  rw [run_append, run_cons, still] at hd
  cases hd
  cases admitted

/-! ## The main result -/

/-- While the reservation is free, just the tickets of those calls wait that were dropped while they
    waited and for which nothing has ended the waiting since. A reply that arrives as a whole and is
    not too long is taken in if there is such a ticket under its id, and is refused as unknown if there
    is none. The invocation of a call that was dropped while it waited stays in the line, for as long
    as no other call registers under its id, until it is handed out or an exit clears the line. -/
theorem dropped_left_behind (events : List Event) (free : (fresh.run events).holder = none) :
    (∀ id ticket, (fresh.run events).exchange.waiting.get? id = some ticket
      ↔ LeftBehind events id ticket) ∧
    (∀ (r : Http.Request) (id : String), Api.repliedId? r = some id → r.body.failure = none →
      r.body.bytes.length ≤ Api.maxBody →
      (∃ ticket, LeftBehind events id ticket) ∧
          Api.answer? (fresh.run events).exchange r = some (.bare .accepted) ∨
        (∀ ticket, ¬ LeftBehind events id ticket) ∧
          Api.answer? (fresh.run events).exchange r = some (Api.unknownId id)) ∧
    (∀ (sooner : List Event) (call : Nat) (c : Call) (ticket : Ticket) (q : Queued)
      (later : List Event), events = sooner ++ .drops call :: later →
      (fresh.run sooner).calls[call]? = some c → c.stage = .brought ticket →
      (fresh.run sooner).traffic.Joined ticket q →
      (∀ before e after, later = before ++ e :: after →
        ¬ (fresh.run (sooner ++ .drops call :: before)).Registers e c.invocation.id) →
      q.invocation = c.invocation ∧ (fresh.run events).traffic.InSight q) := by
  refine ⟨fun id ticket => waits_iff_leftBehind free, ?_, ?_⟩
  · intro r id replied whole short
    have hanswer := Api.answer?_of_whole (x := (fresh.run events).exchange) replied short whole
    cases hwaits : (fresh.run events).exchange.waiting.get? id with
    | some ticket =>
      rw [hwaits] at hanswer
      exact .inl ⟨⟨ticket, (waits_iff_leftBehind free).1 hwaits⟩, hanswer⟩
    | none =>
      rw [hwaits] at hanswer
      refine .inr ⟨fun ticket behind => ?_, hanswer⟩
      have waits := behind.waits
      simp [hwaits] at waits
  · rintro sooner call c ticket q later rfl stands hstage joined unregistered
    exact ⟨(Orderly.fresh.run sooner).invocation_of_joined stands hstage joined,
      inSight_of_dropped stands hstage joined unregistered⟩

/-- Whoever made a call goes away while it waits for its reply, and another call is served. -/
def clientGone : List Event :=
  [ .arrives (plain "a"), .checks 0, .brings 0 ⟨0⟩, .queues 0, .rings 0, .drops 0,
    .arrives (plain "b"), .checks 1, .brings 1 ⟨0⟩, .queues 1, .rings 1,
    .requests (posting "/2018-06-01/runtime/invocation/b/response" [1]), .hears 1 ]

theorem dropped_left_behind_clientGone :
    (fresh.run clientGone).holder = none ∧ LeftBehind clientGone "a" 0 ∧
    (∀ ticket, ¬ LeftBehind clientGone "b" ticket) ∧
    Api.answer? (fresh.run clientGone).exchange
      (posting "/2018-06-01/runtime/invocation/b/response" [2]) = some (Api.unknownId "b") ∧
    (fresh.run clientGone).traffic.InSight (.ofInvocation (plain "a") ⟨0⟩ initialTimeout) := by
  have free : (fresh.run clientGone).holder = none := by decide +kernel
  obtain ⟨behind, replies, sight⟩ := dropped_left_behind clientGone free
  have served : (fresh.run clientGone).exchange.waiting.get? "b" = none := by decide +kernel
  have unknown (ticket : Ticket) : ¬ LeftBehind clientGone "b" ticket := by
    rw [← behind, served]
    simp
  refine ⟨free, (behind "a" 0).1 (by decide +kernel), unknown, ?_, ?_⟩
  · rcases replies (posting "/2018-06-01/runtime/invocation/b/response" [2]) "b"
      (by decide +kernel) rfl (by decide) with ⟨⟨ticket, found⟩, -⟩ | ⟨-, refused⟩
    · exact absurd found (unknown ticket)
    · exact refused
  · have stands : (fresh.run (clientGone.take 5)).calls[0]? = some ⟨plain "a", .brought 0⟩ := by
      decide +kernel
    exact (sight (clientGone.take 5) 0 ⟨plain "a", .brought 0⟩ 0 _ (clientGone.drop 6) rfl stands rfl
      (.inr (by decide +kernel)) (unregistered_of_distinct (by decide +kernel) stands
        (by simp [CallStage.IsOver]))).2

/-- After a call was dropped nobody holds the reservation, and still its ticket waits and its invocation
    stands in the line. The next poll is handed this invocation, and the reply to it is taken in. -/
theorem dropped_call_leaves_trace :
    (fresh.run (clientGone.take 6)).holder = none ∧
    (fresh.run (clientGone.take 6)).exchange.waiting.get? "a" = some 0 ∧
    (fresh.run (clientGone.take 6)).exchange.queue
      = [.ofInvocation (plain "a") ⟨0⟩ initialTimeout] ∧
    (fresh.run (clientGone.take 6 ++ [.requests polling, .looks 0])).traffic.Served 0
      (.ofInvocation (plain "a") ⟨0⟩ initialTimeout) ∧
    Api.answer? (fresh.run (clientGone.take 6 ++ [.requests polling, .looks 0])).exchange
      (posting "/2018-06-01/runtime/invocation/a/response" [1]) = some (.bare .accepted) := by
  refine ⟨?_, ?_, ?_, ?_, ?_⟩ <;> decide +kernel

/-! ## A call whose time is over leaves nothing behind -/

/-- Nobody waits for the reply to a call that was forgotten. -/
def Forgets (s : Sandbox) : Prop :=
  ∀ (call : Nat) (c : Call), s.calls[call]? = some c → c.stage = .forgotten →
    s.exchange.waiting.get? c.invocation.id = none

theorem Forgets.fresh : fresh.Forgets := by
  intro call c hc
  simp [Sandbox.fresh] at hc

theorem Forgets.step (h : s.Forgets) (orderly : s.Orderly) (e : Event) : (s.step e).Forgets := by
  intro call c hc hstage
  change (s.step e).traffic.exchange.waiting.get? c.invocation.id = none
  have still (before : s.calls[call]? = some c)
      (unbrought : ∀ ticket, (s.step e).traffic.exchange.waiting.get? c.invocation.id = some ticket →
        s.exchange.waiting.get? c.invocation.id = some ticket) :
      (s.step e).traffic.exchange.waiting.get? c.invocation.id = none := by
    refine Option.eq_none_iff_forall_ne_some.2 fun ticket waits => ?_
    have waits' := unbrought ticket waits
    rw [h call c before hstage] at waits'
    cases waits'
  cases transition s e with
  | passes events neutral _ traffic calls _ _ =>
    exact still (calls ▸ hc) fun ticket waits =>
      Traffic.waits_of_run_neutral neutral (traffic ▸ waits)
  | replies _ _ reply _ _ _ _ traffic calls _ =>
    exact still (calls ▸ hc) fun ticket waits => Traffic.waits_of_step (by simp) (traffic ▸ waits)
  | turnedAway _ _ _ traffic calls _ | reserves _ _ _ traffic calls _ =>
    rcases getElem?_append_call (calls ▸ hc) with hold | ⟨_, rfl⟩
    · rw [traffic]
      exact h call c hold hstage
    · cases hstage
  | acts other d stage stands unfinished act calls _ _ =>
    rcases getElem?_moved stands (calls ▸ hc) with ⟨_, rfl⟩ | ⟨hne, hold⟩
    · generalize (s.step e).traffic = t at act
      change stage = .forgotten at hstage
      cases act with
      | forgets => exact Dictionary.get?_erase_same _ _
      | hears _ reply => cases reply <;> cases hstage
      | failsCheck | passesCheck | isRefused | enrolls | hearsNothing | expires | withdraws
      | drops => cases hstage
    · -- Only one call is not over, so nobody else acts.
      have active : ¬ c.stage.IsOver := by simp [hstage, CallStage.IsOver]
      exact absurd (orderly.unique hold stands active unfinished) hne

theorem Forgets.run (h : s.Forgets) (orderly : s.Orderly) (events : List Event) :
    (s.run events).Forgets := by
  induction events generalizing s with
  | nil => exact h
  | cons e rest ih => exact ih (h.step orderly e) (orderly.step e)

/-- When a call returns because its time is over, nobody waits under its id, and no invocation with
    its id stands in the line. -/
theorem timeout_leaves_nothing (events : List Event) {call : Nat} {c : Call}
    (stands : (fresh.run events).calls[call]? = some c) (hstage : c.stage = .forgotten) :
    ((fresh.run events).step (.withdraws call)).returned? call
      = some (.failed .invokeTimeout, .blank) ∧
    ((fresh.run events).step (.withdraws call)).exchange.waiting.get? c.invocation.id = none ∧
    ∀ q ∈ ((fresh.run events).step (.withdraws call)).exchange.queue,
      q.invocation.id ≠ c.invocation.id := by
  have forgets : (fresh.run events).Forgets := Forgets.fresh.run .fresh events
  have hstep : (fresh.run events).step (.withdraws call)
      = ((fresh.run events).passing (.withdraws c.invocation.id)).release call
        (.returned (.failed .invokeTimeout) .blank) := by
    simp [step, stepCall_some stands, hstage]
  rw [hstep]
  refine ⟨?_, forgets call c stands hstage, ?_⟩
  · have moved := calls_moveCall (t := (fresh.run events).passing (.withdraws c.invocation.id))
      stands (.returned (.failed .invokeTimeout) .blank)
    simp only [returned?, callStage?, release, moved, Option.map_some]
  · intro q hq
    simpa using (List.mem_filter.1 hq).2

end Sandbox

end FunctionHost
