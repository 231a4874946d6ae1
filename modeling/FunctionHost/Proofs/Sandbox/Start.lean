-- SUMMARY: A start and the calls after it agree on whether it failed, unless the function polled first.
import FunctionHost.Proofs.Exchange.Start
import FunctionHost.Proofs.Sandbox.Reservation

/-! # Starts and the calls after them

How the start went is decided once. A start that is refused, or runs out of time, reports a failure
even if the function asked for an invocation before, and then the start counts as a success for
every call. This is the only way in which starts and calls disagree. -/

namespace FunctionHost.Sandbox

open Exchange

variable {s : Sandbox} {e : Event}

/-! ## Deciding the start -/

theorem Act.settles {call : Nat} {c : Call} {stage : CallStage} {t : Traffic} {p : Prop}
    (act : s.Act call c e stage t) : Settles p s.traffic.exchange t.exchange := by
  cases act with
  | failsCheck | passesCheck | hearsNothing | expires | drops | hears => exact .same rfl rfl
  | isRefused | enrolls | forgets | withdraws =>
    exact (Traffic.settles_step s.traffic _).mono (fun h => by cases h)

/-- Only a poll lets the start succeed. -/
theorem settles_step (s : Sandbox) (e : Event) :
    Settles (∃ r, e = .requests r ∧ Api.IsPoll r) s.exchange (s.step e).exchange := by
  change Settles _ s.traffic.exchange (s.step e).traffic.exchange
  cases transition s e with
  | passes events _ _ traffic _ _ marks =>
    exact traffic ▸ (Traffic.settles_run s.traffic events).mono marks
  | replies _ _ _ _ _ _ _ traffic _ _ =>
    exact traffic ▸ (Traffic.settles_step s.traffic _).mono (fun h => by cases h)
  | turnedAway _ _ _ traffic _ _ | reserves _ _ _ traffic _ _ => exact traffic ▸ .same rfl rfl
  | acts _ _ _ _ _ act _ _ _ => exact act.settles

/-- A poll decides a start that is pending. -/
theorem phase_of_poll {r : Http.Request} (poll : Api.IsPoll r) (pending : s.exchange.phase = .pending) :
    (s.step (.requests r)).exchange.phase = .ready := by
  obtain ⟨hroute, hmethod⟩ := poll
  have hhandled : Api.handle s.exchange r = .polls s.exchange.markReady := by
    rcases hmethod with hmethod | hmethod <;> simp [Api.handle, hroute, Api.Route.knows, hmethod]
  have hstep : (s.step (.requests r)).exchange = s.exchange.markReady := by
    simp only [step, request, hhandled]
    rfl
  simp [hstep, markReady, pending]

/-- The function asked for an invocation while the start was pending. -/
def PolledFirst (s : Sandbox) (events : List Event) : Prop :=
  ∃ sooner r later, events = sooner ++ .requests r :: later ∧ Api.IsPoll r ∧
    (s.run sooner).exchange.phase = .pending

theorem polledFirst_cons {rest : List Event} :
    s.PolledFirst (e :: rest) ↔
      (∃ r, e = .requests r ∧ Api.IsPoll r ∧ s.exchange.phase = .pending) ∨
      (s.step e).PolledFirst rest := by
  constructor
  · rintro ⟨sooner, r, later, hevents, hr⟩
    cases sooner with
    | nil =>
      cases hevents
      exact .inl ⟨r, rfl, hr⟩
    | cons _ sooner =>
      cases hevents
      exact .inr ⟨sooner, r, later, rfl, hr⟩
  · rintro (⟨r, rfl, hr⟩ | ⟨sooner, r, later, rfl, hr⟩)
    · exact ⟨[], r, rest, rfl, hr⟩
    · exact ⟨e :: sooner, r, later, rfl, hr⟩

theorem ready_step :
    (s.step e).exchange.phase = .ready ↔ s.exchange.phase = .ready ∨
      ∃ r, e = .requests r ∧ Api.IsPoll r ∧ s.exchange.phase = .pending := by
  constructor
  · intro ready
    cases settles_step s e with
    | same phase _ => exact .inl (phase ▸ ready)
    | readies poll pending _ _ =>
      obtain ⟨r, event, hpoll⟩ := poll
      exact .inr ⟨r, event, hpoll, pending⟩
    | fails _ _ phase _ => simp [ready] at phase
  · rintro (ready | ⟨r, rfl, hpoll, pending⟩)
    · exact ((settles_step s e).of_decided (by simp [ready])).1.trans ready
    · exact phase_of_poll hpoll pending

/-- The start succeeds exactly if the function asks for an invocation while it is pending. -/
theorem ready_run {events : List Event} :
    (s.run events).exchange.phase = .ready ↔
      s.exchange.phase = .ready ∨ s.PolledFirst events := by
  induction events generalizing s with
  | nil => simp [PolledFirst]
  | cons e rest ih => rw [run_cons, ih, ready_step, polledFirst_cons, or_assoc]

theorem settles_run (s : Sandbox) (events : List Event) :
    Settles True s.exchange (s.run events).exchange := by
  induction events generalizing s with
  | nil => exact .same rfl rfl
  | cons e rest ih => exact ((settles_step s e).mono fun _ => trivial).trans (ih (s.step e))

/-! ## Starts that returned -/

/-- The process of the function is started, or ends. All other events belong to calls and to whoever
    talks to the interface. -/
def Event.IsOfProcess : Event → Prop
  | .begins _ _ | .settles _ | .lapses _ | .yields _ | .exits _ _ => True
  | _ => False

/-- Starts stand where they stood, and no exit was recorded. -/
structure Unmoved (s t : Sandbox) : Prop where
  starts : t.starts = s.starts
  recorded : t.traffic.recorded = s.traffic.recorded

theorem Unmoved.passing {v : Traffic.Event} (h : v.recorded? = none) : s.Unmoved (s.passing v) :=
  ⟨rfl, s.traffic.recorded_step_of_none h⟩

theorem Unmoved.stepCall {call : Nat} {act : Call → Option Sandbox}
    (h : ∀ c t, act c = some t → s.Unmoved t) : s.Unmoved (s.stepCall call act) := by
  cases hcall : s.calls[call]? with
  | none =>
    rw [stepCall_none hcall]
    exact ⟨rfl, rfl⟩
  | some c =>
    rw [stepCall_some hcall]
    cases hact : act c with
    | none => exact ⟨rfl, rfl⟩
    | some t => exact h c t hact

theorem unmoved_step (h : ¬ e.IsOfProcess) : s.Unmoved (s.step e) := by
  cases e with
  | begins | settles | lapses | yields | exits => exact absurd trivial h
  | arrives invocation =>
    simp only [step, arrive]
    split <;> exact ⟨rfl, rfl⟩
  | requests r =>
    simp only [step, request]
    split
    · exact ⟨rfl, rfl⟩
    · exact ⟨rfl, Traffic.recorded_step_of_none _ rfl⟩
  | looks | sleeps | leaves | reports => exact .passing rfl
  | checks call =>
    refine .stepCall ?_
    intro c t h
    split at h <;> cases h
    simp only [check]
    split <;> exact ⟨rfl, rfl⟩
  | brings call now =>
    refine .stepCall ?_
    intro c t h
    split at h <;> cases h
    simp only [bring]
    split <;> exact ⟨rfl, Traffic.recorded_step_of_none _ rfl⟩
  | hears call =>
    refine .stepCall ?_
    intro c t h
    split at h
    · split at h <;> cases h
      simp only [hear]
      split <;> exact ⟨rfl, rfl⟩
    · cases h
  | expires call =>
    refine .stepCall ?_
    intro c t h
    split at h
    · split at h <;> cases h
      exact ⟨rfl, rfl⟩
    · cases h
  | queues call | rings call | forgets call | withdraws call =>
    refine .stepCall ?_
    intro c t h
    split at h <;> cases h
    exact ⟨rfl, Traffic.recorded_step_of_none _ rfl⟩
  | drops call =>
    refine .stepCall ?_
    intro c t h
    split at h <;> cases h
    exact ⟨rfl, rfl⟩

/-- How an event changes the starts: one comes or moves on, and it only returns after the start was
    decided, and without a failure only if the start succeeded. -/
inductive Starts (s : Sandbox) (e : Event) : Prop where
  | same (starts : (s.step e).starts = s.starts)
  | comes (stage : StartStage) (starts : (s.step e).starts = s.starts ++ [stage])
      (decided : ∀ failure, stage = .returned failure → (s.step e).exchange.phase ≠ .pending ∧
        (failure = none → (s.step e).exchange.phase = .ready))
  | moves (start : Nat) (stage : StartStage) (starts : (s.step e).starts = s.starts.set start stage)
      (decided : ∀ failure, stage = .returned failure → (s.step e).exchange.phase ≠ .pending ∧
        (failure = none → (s.step e).exchange.phase = .ready))

theorem startFailure_eq_none {x : Exchange} (h : startFailure x = none) : x.phase = .ready := by
  simp only [startFailure] at h
  split at h
  · assumption
  · cases h

theorem failStart_decided (x : Exchange) (document : Bytes) :
    (x.failStart document).phase ≠ .pending := by
  by_cases pending : x.phase = .pending <;> simp [failStart, pending]

theorem starts_step (s : Sandbox) (e : Event) : s.Starts e := by
  cases e with
  | begins timeout refusal =>
    cases refusal with
    | none => exact .comes .waiting rfl (by simp)
    | some problem =>
      refine .comes (.returned (some problem.message)) rfl ?_
      rintro failure ⟨⟩
      exact ⟨failStart_decided s.exchange _, by simp⟩
  | settles start =>
    by_cases hstart : s.starts[start]? = some .waiting ∧ s.exchange.phase ≠ .pending
    · have hstep : s.step (.settles start)
          = s.moveStart start (.returned (startFailure s.exchange)) := by
        simp only [step, if_pos hstart]
      refine .moves start _ (by rw [hstep]; rfl) ?_
      rintro failure ⟨⟩
      rw [hstep]
      exact ⟨hstart.2, startFailure_eq_none⟩
    · exact .same (by simp only [step, if_neg hstart])
  | lapses start =>
    by_cases hstart : s.starts[start]? = some .waiting ∧ s.exchange.phase = .pending
    · exact .moves start .overdue (by simp only [step, if_pos hstart]; rfl) (by simp)
    · exact .same (by simp only [step, if_neg hstart])
  | yields start =>
    by_cases hstart : s.starts[start]? = some .overdue
    · have hstep : s.step (.yields start)
          = (s.passing (.failsStart overdueDocument)).moveStart start
              (.returned (some overdueMessage)) := by simp only [step, if_pos hstart]
      refine .moves start _ (by rw [hstep]; rfl) ?_
      rintro failure ⟨⟩
      rw [hstep]
      exact ⟨failStart_decided s.exchange _, by simp⟩
    · exact .same (by simp only [step, if_neg hstart])
  | exits => exact .same rfl
  | arrives | checks | brings | queues | rings | hears | expires | forgets | withdraws | drops
  | requests | looks | sleeps | leaves | reports => exact .same (unmoved_step id).starts

/-! ## The invariant -/

/-- What holds of a sandbox at any time: there is a document exactly if the start failed, a start
    that returned was decided, and calls were told of a failure only if there was one. -/
structure Settled (s : Sandbox) : Prop where
  document : s.exchange.startError = none ↔ s.exchange.phase ≠ .failed
  decided : ∀ (start : Nat) (failure : Option String),
    s.starts[start]? = some (.returned failure) →
    s.exchange.phase ≠ .pending ∧ (failure = none → s.exchange.phase = .ready)
  told : ∀ (call : Nat) (c : Call) (draft : Draft), s.calls[call]? = some c →
    c.stage = .returned (.failed .initDoneFailed) draft → s.exchange.phase = .failed

theorem Settled.fresh : fresh.Settled where
  document := by simp [Sandbox.fresh, Sandbox.exchange, Traffic.fresh, Exchange.fresh]
  decided start failure h := by simp [Sandbox.fresh] at h
  told call c draft h := by simp [Sandbox.fresh] at h

theorem Settled.document_step (h : s.Settled) (e : Event) :
    (s.step e).exchange.startError = none ↔ (s.step e).exchange.phase ≠ .failed := by
  cases settles_step s e with
  | same phase startError => rw [phase, startError, h.document]
  | readies _ pending phase startError =>
    rw [startError, h.document, pending, phase]
    decide
  | fails document _ phase startError => simp [phase, startError]

theorem Settled.decided_step (h : s.Settled) (e : Event) (start : Nat) (failure : Option String)
    (returned : (s.step e).starts[start]? = some (.returned failure)) :
    (s.step e).exchange.phase ≠ .pending ∧
      (failure = none → (s.step e).exchange.phase = .ready) := by
  have hold (hstart : s.starts[start]? = some (.returned failure)) :
      (s.step e).exchange.phase ≠ .pending ∧
        (failure = none → (s.step e).exchange.phase = .ready) := by
    obtain ⟨hphase, hready⟩ := h.decided start failure hstart
    rw [((settles_step s e).of_decided hphase).1]
    exact ⟨hphase, hready⟩
  cases starts_step s e with
  | same starts => exact hold (starts ▸ returned)
  | comes stage starts decided =>
    rw [starts, List.getElem?_append] at returned
    split at returned
    · exact hold returned
    · rw [List.getElem?_singleton] at returned
      split at returned
      · exact decided failure (Option.some.inj returned)
      · cases returned
  | moves moved stage starts decided =>
    rw [starts, List.getElem?_set] at returned
    split at returned
    · split at returned
      · exact decided failure (Option.some.inj returned)
      · cases returned
    · exact hold returned

/-- Only a failed check tells a call of a failure. -/
theorem Act.failed_of_told {call : Nat} {c : Call} {stage : CallStage} {t : Traffic} {draft : Draft}
    (act : s.Act call c e stage t) (told : stage = .returned (.failed .initDoneFailed) draft) :
    s.exchange.phase = .failed := by
  cases act with
  | failsCheck _ failed => exact failed
  | hears _ reply => cases reply <;> cases told
  | passesCheck | isRefused | enrolls | hearsNothing | expires | forgets | withdraws | drops =>
    cases told

theorem Settled.told_step (h : s.Settled) (e : Event) (call : Nat) (c : Call) (draft : Draft)
    (hc : (s.step e).calls[call]? = some c)
    (told : c.stage = .returned (.failed .initDoneFailed) draft) :
    (s.step e).exchange.phase = .failed := by
  have hold (failed : s.exchange.phase = .failed) : (s.step e).exchange.phase = .failed :=
    ((settles_step s e).of_decided (by simp [failed])).1.trans failed
  cases transition s e with
  | passes _ _ _ _ calls _ _ | replies _ _ _ _ _ _ _ _ calls _ =>
    exact hold (h.told call c draft (calls ▸ hc) told)
  | turnedAway _ _ _ _ calls _ | reserves _ _ _ _ calls _ =>
    rcases getElem?_append_call (calls ▸ hc) with hcall | ⟨_, rfl⟩
    · exact hold (h.told call c draft hcall told)
    · cases told
  | acts _ _ stage stands _ act calls _ _ =>
    rcases getElem?_moved stands (calls ▸ hc) with ⟨_, rfl⟩ | ⟨_, hcall⟩
    · exact hold (act.failed_of_told told)
    · exact hold (h.told call c draft hcall told)

theorem Settled.run (h : s.Settled) (events : List Event) : (s.run events).Settled := by
  induction events generalizing s with
  | nil => exact h
  | cons e rest ih => exact ih ⟨h.document_step e, h.decided_step e, h.told_step e⟩

/-! ## Calls after a start that failed -/

/-- Where a call can stand that comes after the start failed with a document: it holds the
    reservation and was not told yet, was told, was turned away, or was dropped. -/
inductive Surfaces (document : Bytes) : CallStage → Prop where
  | waits : Surfaces document .reserved
  | told : Surfaces document
      (.returned (.failed .initDoneFailed) (Draft.blank.write document))
  | turnedAway : Surfaces document (.returned (.failed .alreadyReserved) .blank)
  | dropped : Surfaces document .dropped

theorem Act.surfaces {document : Bytes} {call : Nat} {c : Call} {stage : CallStage} {t : Traffic}
    (act : s.Act call c e stage t) (failed : s.exchange.phase = .failed)
    (recorded : s.exchange.startError = some document) (surfaces : Surfaces document c.stage) :
    Surfaces document stage := by
  cases act with
  | failsCheck =>
    rw [recorded]
    exact .told
  | passesCheck _ unfailed => exact absurd failed unfailed
  | drops => exact .dropped
  | isRefused _ _ stage | enrolls _ stage | hears _ _ stage | hearsNothing _ stage
  | expires _ stage | forgets stage | withdraws stage =>
    rw [stage] at surfaces
    cases surfaces

/-- Whether a call came before or comes with the event, it surfaces after it. -/
theorem surfaces_step {document : Bytes} {call : Nat} (failed : s.exchange.phase = .failed)
    (recorded : s.exchange.startError = some document)
    (h : ∀ c, s.calls[call]? = some c → Surfaces document c.stage) (e : Event) (c : Call)
    (hc : (s.step e).calls[call]? = some c) : Surfaces document c.stage := by
  cases transition s e with
  | passes _ _ _ _ calls _ _ | replies _ _ _ _ _ _ _ _ calls _ => exact h c (calls ▸ hc)
  | turnedAway _ _ _ _ calls _ =>
    rcases getElem?_append_call (calls ▸ hc) with hcall | ⟨_, rfl⟩
    · exact h c hcall
    · exact .turnedAway
  | reserves _ _ _ _ calls _ =>
    rcases getElem?_append_call (calls ▸ hc) with hcall | ⟨_, rfl⟩
    · exact h c hcall
    · exact .waits
  | acts _ d stage stands _ act calls _ _ =>
    rcases getElem?_moved stands (calls ▸ hc) with ⟨rfl, rfl⟩ | ⟨_, hcall⟩
    · exact act.surfaces failed recorded (h d stands)
    · exact h c hcall

/-- Once the start has failed, a call that surfaces, or has not come yet, surfaces at any time. -/
theorem surfaces_run_call {document : Bytes} {call : Nat} (failed : s.exchange.phase = .failed)
    (recorded : s.exchange.startError = some document)
    (h : ∀ c, s.calls[call]? = some c → Surfaces document c.stage) (events : List Event) (c : Call)
    (hc : (s.run events).calls[call]? = some c) : Surfaces document c.stage := by
  induction events generalizing s with
  | nil => exact h c hc
  | cons e rest ih =>
    obtain ⟨phase, startError⟩ := (settles_step s e).of_decided (by simp [failed])
    exact ih (phase.trans failed) (startError.trans recorded) (surfaces_step failed recorded h e) hc

/-- Once the start has failed, every later call is told so. -/
theorem surfaces_run {document : Bytes} {first : Nat} (failed : s.exchange.phase = .failed)
    (recorded : s.exchange.startError = some document)
    (h : ∀ (call : Nat) (c : Call), first ≤ call → s.calls[call]? = some c →
      Surfaces document c.stage) (events : List Event) (call : Nat) (c : Call)
    (later : first ≤ call) (hc : (s.run events).calls[call]? = some c) :
    Surfaces document c.stage :=
  surfaces_run_call failed recorded (fun c hc => h call c later hc) events c hc

/-- A call that holds the reservation is told of the failure when it checks. -/
theorem returned?_check {document : Bytes} {call : Nat} {c : Call}
    (failed : s.exchange.phase = .failed) (recorded : s.exchange.startError = some document)
    (hc : s.calls[call]? = some c) (reserved : c.stage = .reserved) :
    (s.step (.checks call)).returned? call
      = some (.failed .initDoneFailed, Draft.blank.write document) := by
  rw [step_checks_of_failed hc reserved failed, recorded]
  simp [release, moveCall, returned?, callStage?, hc]

/-! ## Agreement -/

/-- What a start returned agrees with what becomes of calls after it. After a failure every later
    call that gets the reservation is told of it, with just the document that was recorded; after a
    success no call is ever told of a failure. -/
def Agrees (s : Sandbox) : Option String → Prop
  | none => ∀ (after : List Event) (call : Nat) (draft : Draft),
    (s.run after).returned? call ≠ some (.failed .initDoneFailed, draft)
  | some _ => ∃ document, s.exchange.startError = some document ∧
    ∀ (after : List Event) (call : Nat) (c : Call), s.calls.length ≤ call →
      (s.run after).calls[call]? = some c → Surfaces document c.stage ∧
        (c.stage = .reserved → ((s.run after).step (.checks call)).returned? call
          = some (.failed .initDoneFailed, Draft.blank.write document))

/-- If the start succeeded, no call is ever told of a failure. -/
theorem Settled.never_told (h : s.Settled) (ready : s.exchange.phase = .ready) (after : List Event)
    (call : Nat) (draft : Draft) :
    (s.run after).returned? call ≠ some (.failed .initDoneFailed, draft) := by
  intro returned
  have hready := ((settles_run s after).of_decided (by simp [ready])).1.trans ready
  cases hc : (s.run after).calls[call]? with
  | none => simp [returned?, callStage?, hc] at returned
  | some c =>
    have failed := (h.run after).told call c draft hc (stage_of_returned? hc returned)
    simp [hready] at failed

/-- A start agrees with the calls after it exactly if it returned no failure, or the function did not
    ask for an invocation while the start was pending. If the function did ask, no call is ever
    told of a failure, whatever the start returned. -/
theorem agrees_iff_not_polledFirst (before : List Event) (start : Nat) (failure : Option String)
    (returned : (fresh.run before).started? start = some failure) :
    ((fresh.run before).Agrees failure ↔ failure = none ∨ ¬ fresh.PolledFirst before) ∧
    (fresh.PolledFirst before → ∀ (after : List Event) (call : Nat) (draft : Draft),
      ((fresh.run before).run after).returned? call ≠ some (.failed .initDoneFailed, draft)) := by
  have h : (fresh.run before).Settled := Settled.fresh.run before
  have hready : (fresh.run before).exchange.phase = .ready ↔ fresh.PolledFirst before :=
    ready_run.trans (or_iff_right (by decide))
  have hstarts : (fresh.run before).starts[start]? = some (.returned failure) := by
    simp only [started?] at returned
    split at returned
    · next hstart => rw [hstart, Option.some.inj returned]
    · cases returned
  obtain ⟨hphase, hsucceeded⟩ := h.decided start failure hstarts
  refine ⟨⟨?_, ?_⟩, fun polled => h.never_told (hready.2 polled)⟩
  · intro agrees
    cases failure with
    | none => exact .inl rfl
    | some message =>
      refine .inr ?_
      intro polled
      obtain ⟨document, recorded, _⟩ := agrees
      rw [h.document.2 (by simp [hready.2 polled])] at recorded
      cases recorded
  · intro hfailure
    cases failure with
    | none => exact h.never_told (hsucceeded rfl)
    | some message =>
      have unpolled : ¬ fresh.PolledFirst before := hfailure.resolve_left (by simp)
      have failed : (fresh.run before).exchange.phase = .failed := by
        cases hp : (fresh.run before).exchange.phase with
        | pending => exact absurd hp hphase
        | ready => exact absurd (hready.1 hp) unpolled
        | failed => rfl
      obtain ⟨document, recorded⟩ := Option.ne_none_iff_exists'.1
        fun hnone => h.document.1 hnone failed
      refine ⟨document, recorded, ?_⟩
      intro after call c later hc
      constructor
      · refine surfaces_run failed recorded ?_ after call c later hc
        intro call c later hc
        exact absurd (List.getElem?_eq_some_iff.1 hc).1 (Nat.not_lt.2 later)
      · intro reserved
        obtain ⟨hp, hr⟩ := (settles_run (fresh.run before) after).of_decided (by simp [failed])
        exact returned?_check (hp.trans failed) (hr.trans recorded) hc reserved

/-- The bootstrap of a start is not found. -/
def refusedStart : List Event :=
  [.begins 3000 (some (.notFound "/opt/bootstrap"))]

theorem agrees_after_refusal :
    (fresh.run refusedStart).started? 0 = some (some "Binary not found: /opt/bootstrap") ∧
    (fresh.run refusedStart).Agrees (some "Binary not found: /opt/bootstrap") := by
  have returned : (fresh.run refusedStart).started? 0
      = some (some "Binary not found: /opt/bootstrap") := by decide +kernel
  have unpolled : ¬ fresh.PolledFirst refusedStart := by
    intro polled
    have ready : (fresh.run refusedStart).exchange.phase = .ready := ready_run.2 (.inr polled)
    exact absurd ready (by decide +kernel)
  exact ⟨returned, (agrees_iff_not_polledFirst _ 0 _ returned).1.2 (.inr unpolled)⟩

/-- Somebody asks for an invocation before a start, and the bootstrap is not found. -/
def refusedAfterPoll : List Event :=
  .requests polling :: refusedStart

/-- A call that is served after the start returned a failure. -/
theorem disagrees_after_poll :
    (fresh.run refusedAfterPoll).started? 0 = some (some "Binary not found: /opt/bootstrap") ∧
    ¬ (fresh.run refusedAfterPoll).Agrees (some "Binary not found: /opt/bootstrap") ∧
    ((fresh.run refusedAfterPoll).run
      [ .arrives (plain "a"), .checks 0, .brings 0 ⟨0⟩, .queues 0, .rings 0,
        .requests (posting "/2018-06-01/runtime/invocation/a/response" [1]), .hears 0 ]).returned? 0
      = some (.served, (Draft.blank.setStatus .ok).write [1]) := by
  refine ⟨by decide +kernel, ?_, by decide +kernel⟩
  rintro ⟨document, recorded, _⟩
  have nothing : (fresh.run refusedAfterPoll).exchange.startError = none := by decide +kernel
  rw [nothing] at recorded
  cases recorded

end FunctionHost.Sandbox
