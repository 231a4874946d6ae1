-- SUMMARY: A reply that is taken in serves its call, unless it comes just after the time of the call was over.
import FunctionHost.Proofs.Sandbox.Mailed
import FunctionHost.Proofs.Sandbox.SingleFlight

/-! # Replies that come too late

When the time of a call is over, the call first stops listening, and only its next step has the
exchange forget about it. A reply that comes before the first of these steps serves the call, and
one that comes after the second is refused. A reply that comes in between is taken in, and nobody
reads it. -/

namespace FunctionHost

namespace Sandbox

open Exchange

variable {s : Sandbox} {e : Event} {events : List Event} {call : Nat} {c : Call}

/-! ## Calls whose time is over -/

/-- The time of a call is over: it does not listen any more, or it returned for that reason. -/
inductive CallStage.IsLate : CallStage → Prop where
  | expired : IsLate .expired
  | forgotten : IsLate .forgotten
  | returned : IsLate (.returned (.failed .invokeTimeout) .blank)

/-- How many steps a call whose time is over has taken since, of two. -/
def CallStage.steppedDown : CallStage → Nat
  | .expired => 0
  | .forgotten => 1
  | _ => 2

/-- The steps by which a call whose time is over comes to return. -/
def lateSteps (call : Nat) : List Event :=
  [.forgets call, .withdraws call]

theorem Act.late {stage : CallStage} {t : Traffic} (act : s.Act call c e stage t)
    (late : c.stage.IsLate) (stays : e ≠ .drops call) :
    stage.IsLate ∧ c.stage.steppedDown < stage.steppedDown := by
  cases act with
  | forgets hstage =>
    rw [hstage]
    exact ⟨.forgotten, Nat.zero_lt_one⟩
  | withdraws hstage =>
    rw [hstage]
    exact ⟨.returned, Nat.one_lt_two⟩
  | drops => exact absurd rfl stays
  | failsCheck hstage | passesCheck hstage | isRefused _ _ hstage | enrolls _ hstage
  | hears _ _ hstage | hearsNothing _ hstage | expires _ hstage =>
    rw [hstage] at late
    cases late

/-- A call whose time is over makes progress with its next step. -/
theorem steppedDown_lt (hc : s.calls[call]? = some c) (late : c.stage.IsLate)
    (next : (lateSteps call)[c.stage.steppedDown]? = some e) {d : Call}
    (hd : (s.step e).calls[call]? = some d) : c.stage.steppedDown < d.stage.steppedDown := by
  cases hstage : c.stage with
  | expired =>
    rw [hstage] at next
    cases next
    have hstep : s.step (.forgets call)
        = (s.passing (.forgets c.invocation.id)).moveCall call .forgotten := by
      simp [Sandbox.step, stepCall_some hc, hstage]
    rw [hstep, calls_moveCall (t := s.passing _) hc] at hd
    cases hd
    exact Nat.zero_lt_one
  | forgotten =>
    rw [hstage] at next
    cases next
    have hstep : (s.step (.withdraws call)).calls
        = ((s.passing (.withdraws c.invocation.id)).moveCall call
          (.returned (.failed .invokeTimeout) .blank)).calls := by
      simp [Sandbox.step, stepCall_some hc, hstage, release]
    rw [hstep, calls_moveCall (t := s.passing _) hc] at hd
    cases hd
    exact Nat.one_lt_two
  | returned =>
    rw [hstage] at next
    cases next
  | reserved | admitted | brought | dropped =>
    rw [hstage] at late
    cases late

theorem course_late (call : Nat) :
    Course call (fun _ c => c.stage.IsLate) (fun _ c => c.stage.steppedDown) (lateSteps call) where
  goesOn s e c orderly hc late stays := by
    rcases orderly.call_step hc e with ⟨still, -⟩ | ⟨stage, -, act, hmoved⟩
    · exact ⟨c, still, rfl, late, Nat.le_refl _, fun next => steppedDown_lt hc late next still⟩
    · obtain ⟨hlate, hlt⟩ := act.late late stays
      exact ⟨⟨c.invocation, stage⟩, hmoved, rfl, hlate, Nat.le_of_lt hlt, fun _ => hlt⟩

/-- A call whose time is over returns for that reason. -/
theorem comesTo_of_late (orderly : s.Orderly) (hc : s.calls[call]? = some c)
    (late : c.stage.IsLate) (stays : .drops call ∉ events) :
    s.ComesTo call ((lateSteps call).drop c.stage.steppedDown) events
      (.failed .invokeTimeout, .blank) := by
  refine (course_late call).comesTo orderly hc late stays ?_ ?_
  · intro t d _ hlate outcome draft hstage
    rw [hstage] at hlate
    cases hlate
    rfl
  · rintro t ⟨invocation, stage⟩ _ hlate done
    cases hlate with
    | expired => exact absurd done (Nat.not_succ_le_zero 1)
    | forgotten => exact absurd done (Nat.not_succ_le_self 1)
    | returned => rfl

/-! ## Calls and their ids -/

theorem callIds_run (s : Sandbox) (events : List Event) :
    (s.run events).callIds.Sublist (s.callIds ++ events.filterMap arrivedId?) := by
  induction events generalizing s with
  | nil => simp
  | cons e rest ih =>
    rw [arrivedIds_cons, ← List.append_assoc]
    exact (ih (s.step e)).trans ((callIds_step s e).append_right _)

/-- When calls come with ids of their own, a call that stood there sooner with the id of a call is that
    call. -/
theorem call_unique {sooner later : List Event}
    (distinct : ((sooner ++ later).filterMap arrivedId?).Nodup) {call other : Nat} {c d : Call}
    (hc : (fresh.run (sooner ++ later)).calls[call]? = some c)
    (hd : (fresh.run sooner).calls[other]? = some d) (same : d.invocation.id = c.invocation.id) :
    other = call := by
  have nodup : (fresh.run (sooner ++ later)).callIds.Nodup :=
    distinct.sublist (callIds_run fresh (sooner ++ later))
  have listed {i : Nat} {x : Call} (hx : (fresh.run (sooner ++ later)).calls[i]? = some x) :
      (fresh.run (sooner ++ later)).callIds[i]? = some x.invocation.id := by
    rw [callIds, List.getElem?_map, hx]
    rfl
  obtain ⟨d', hd', hinvocation⟩ := (Orderly.fresh.run sooner).call_run hd later
  rw [← run_append] at hd'
  have hother := listed hd'
  rw [hinvocation, same, ← listed hc] at hother
  exact (List.getElem?_inj (List.getElem?_eq_some_iff.1 (listed hd')).1 nodup).1 hother

/-! ## Replies -/

/-- What a reply that is taken in leads to: a call listens for it, and comes to return it, or the time
    of the call is just over, and it comes to return without it. -/
inductive Received (s : Sandbox) (r : Http.Request) (id : String) (later : List Event) : Prop where
  | served (call : Nat) (c : Call) (same : c.invocation.id = id) (listens : s.Listens call c)
      (comes : ∀ now, (s.step (.requests r)).ComesTo call
        ((ownSteps call now).drop (s.progress c)) later (.served, ⟨some .ok, r.body.bytes⟩))
  | lost (call : Nat) (c : Call) (same : c.invocation.id = id) (stands : s.calls[call]? = some c)
      (expired : c.stage = .expired)
      (comes : (s.step (.requests r)).ComesTo call (lateSteps call) later
        (.failed .invokeTimeout, .blank))

theorem Orderly.stands_of_request (h : s.Orderly) (hc : s.calls[call]? = some c)
    (r : Http.Request) : (s.step (.requests r)).calls[call]? = some c := by
  rcases h.call_step hc (.requests r) with ⟨still, -⟩ | ⟨stage, -, act, -⟩
  · exact still
  · cases act

/-- A call that waits for a reply listens, or its time is just over. -/
theorem Exclusive.received (h : s.Exclusive) {r : Http.Request} {id : String} {later : List Event}
    (replied : Api.repliedId? r = some id) (accepts : Api.Accepts s.exchange r)
    (stays : ∀ call, .drops call ∉ later) : s.Received r id later := by
  obtain ⟨ticket, waits⟩ := Api.waits_of_accepts replied accepts
  obtain ⟨call, c, hc, rfl, brought | expired⟩ := h.waits id ticket waits
  · have listens : s.Listens call c := ⟨hc, ticket, brought, waits⟩
    have accepted := acceptedReply?_eq_some_iff.2 ⟨r, rfl, replied, accepts, rfl⟩
    exact .served call c rfl listens fun now =>
      listens.served h.orderly accepted (stays call) now
  · refine .lost call c rfl hc expired ?_
    have comes := comesTo_of_late (h.orderly.step _) (h.orderly.stands_of_request hc r)
      (expired ▸ .expired) (stays call)
    rwa [expired] at comes

theorem received_of_accepts {sooner later : List Event} {r : Http.Request} {id : String}
    (stays : ∀ call, .drops call ∉ sooner ++ .requests r :: later)
    (replied : Api.repliedId? r = some id) (accepts : Api.Accepts (fresh.run sooner).exchange r) :
    (fresh.run sooner).Received r id later := by
  have h : (fresh.run sooner).Exclusive :=
    Exclusive.fresh.run fun call dropped => stays call (by simp [dropped])
  exact h.received replied accepts fun call dropped => stays call (by simp [dropped])

/-- A reply to a call that returns in the end because its time was over is only taken in just after the
    time was over. -/
theorem expired_of_accepts {sooner later : List Event} {r : Http.Request} {call : Nat} {c : Call}
    {draft : Draft} (stays : ∀ call, .drops call ∉ sooner ++ .requests r :: later)
    (distinct : ((sooner ++ .requests r :: later).filterMap arrivedId?).Nodup)
    (hc : (fresh.run (sooner ++ .requests r :: later)).calls[call]? = some c)
    (timedOut : (fresh.run (sooner ++ .requests r :: later)).returned? call
      = some (.failed .invokeTimeout, draft))
    (replied : Api.repliedId? r = some c.invocation.id)
    (accepts : Api.Accepts (fresh.run sooner).exchange r) :
    (fresh.run sooner).callStage? call = some .expired := by
  cases received_of_accepts stays replied accepts with
  | served other d same listens comes =>
    obtain rfl := call_unique distinct hc listens.1 same
    rw [run_append, run_cons] at timedOut
    have served := (comes ⟨0⟩).only _ timedOut
    cases served
  | lost other d same stands expired =>
    obtain rfl := call_unique distinct hc stands same
    rw [callStage?, stands, Option.map_some, expired]

/-- As long as no call is dropped, a reply that is taken in finds a call for it that listens, and this
    call comes to return just this reply; or it finds one whose time is over and that the exchange was
    not told to forget yet, and this call returns without it. If calls come with ids of their own, then
    of the replies to a call that returns because its time was over, those that arrive as a whole and
    are not too long are all refused as unknown, but for one that comes just after the time was
    over. -/
theorem received_unless_expired (events : List Event) (stays : ∀ call, .drops call ∉ events) :
    (∀ (sooner : List Event) (r : Http.Request) (later : List Event) (id : String),
      events = sooner ++ .requests r :: later → Api.repliedId? r = some id →
      Api.Accepts (fresh.run sooner).exchange r → (fresh.run sooner).Received r id later) ∧
    ((events.filterMap arrivedId?).Nodup →
      ∀ (call : Nat) (c : Call) (draft : Draft), (fresh.run events).calls[call]? = some c →
      (fresh.run events).returned? call = some (.failed .invokeTimeout, draft) →
      ∀ (sooner : List Event) (r : Http.Request) (later : List Event),
        events = sooner ++ .requests r :: later → Api.repliedId? r = some c.invocation.id →
        r.body.failure = none → r.body.bytes.length ≤ Api.maxBody →
        Api.answer? (fresh.run sooner).exchange r = some (Api.unknownId c.invocation.id) ∨
        ((fresh.run sooner).callStage? call = some .expired ∧
          Api.answer? (fresh.run sooner).exchange r = some (.bare .accepted))) := by
  constructor
  · rintro sooner r later id rfl replied accepts
    exact received_of_accepts stays replied accepts
  · rintro distinct call c draft hc timedOut sooner r later rfl replied whole short
    have hanswer := Api.answer?_of_whole (x := (fresh.run sooner).exchange) replied short whole
    split at hanswer
    · have accepts : Api.Accepts (fresh.run sooner).exchange r := by
        rw [Api.Accepts, hanswer]
        rfl
      exact .inr ⟨expired_of_accepts stays distinct hc timedOut replied accepts, hanswer⟩
    · exact .inl hanswer

/-- A call is replied to while it listens, and another one once its time is over, and again after it
    was forgotten. -/
def repliedTooLate : List Event :=
  [ .requests polling, .arrives (plain "a"), .checks 0, .brings 0 ⟨0⟩, .queues 0, .rings 0,
    .requests (posting "/2018-06-01/runtime/invocation/a/response" [1]), .hears 0,
    .arrives (plain "b"), .checks 1, .brings 1 ⟨0⟩, .queues 1, .rings 1, .expires 1,
    .requests (posting "/2018-06-01/runtime/invocation/b/response" [2]), .forgets 1, .withdraws 1,
    .requests (posting "/2018-06-01/runtime/invocation/b/error" [3]) ]

theorem received_unless_expired_repliedTooLate :
    (repliedTooLate.filterMap arrivedId?).Nodup ∧ (∀ call, .drops call ∉ repliedTooLate) ∧
    (fresh.run (repliedTooLate.take 6)).Received
      (posting "/2018-06-01/runtime/invocation/a/response" [1]) "a" (repliedTooLate.drop 7) ∧
    (fresh.run (repliedTooLate.take 14)).Received
      (posting "/2018-06-01/runtime/invocation/b/response" [2]) "b" (repliedTooLate.drop 15) ∧
    (Api.answer? (fresh.run (repliedTooLate.take 17)).exchange
        (posting "/2018-06-01/runtime/invocation/b/error" [3]) = some (Api.unknownId "b") ∨
      ((fresh.run (repliedTooLate.take 17)).callStage? 1 = some .expired ∧
        Api.answer? (fresh.run (repliedTooLate.take 17)).exchange
          (posting "/2018-06-01/runtime/invocation/b/error" [3]) = some (.bare .accepted))) := by
  have distinct : (repliedTooLate.filterMap arrivedId?).Nodup := by decide
  have stays : ∀ call, .drops call ∉ repliedTooLate := by simp [repliedTooLate]
  obtain ⟨received, refused⟩ := received_unless_expired repliedTooLate stays
  refine ⟨distinct, stays, ?_, ?_, ?_⟩
  · exact received _ _ _ "a" rfl (by decide +kernel) (by decide +kernel)
  · exact received _ _ _ "b" rfl (by decide +kernel) (by decide +kernel)
  · exact refused distinct 1 ⟨plain "b", .returned (.failed .invokeTimeout) .blank⟩ .blank
      (by decide +kernel) (by decide +kernel) _ _ [] rfl (by decide +kernel) rfl (by decide)

/-- A reply that comes just after the time of a call was over is taken in with 202, and the call
    returns that its time was over. -/
theorem accepted_reply_is_lost :
    Api.repliedId? (posting "/2018-06-01/runtime/invocation/a/response" [1]) = some "a" ∧
    Api.Accepts (fresh.run [.arrives (plain "a"), .checks 0, .brings 0 ⟨0⟩, .queues 0, .rings 0,
      .expires 0]).exchange (posting "/2018-06-01/runtime/invocation/a/response" [1]) ∧
    (fresh.run [.arrives (plain "a"), .checks 0, .brings 0 ⟨0⟩, .queues 0, .rings 0, .expires 0,
      .requests (posting "/2018-06-01/runtime/invocation/a/response" [1]), .forgets 0,
      .withdraws 0]).returned? 0 = some (.failed .invokeTimeout, .blank) :=
  ⟨by decide +kernel, by decide +kernel, by decide +kernel⟩

end Sandbox

end FunctionHost
