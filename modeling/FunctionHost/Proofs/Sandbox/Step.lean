-- SUMMARY: What each event does to the calls of a sandbox and to the traffic at its exchange.
import FunctionHost.Proofs.Exchange.Api
import FunctionHost.Proofs.Exchange.Exit
import FunctionHost.Sandbox.Basic

/-! # Steps of a sandbox

An event either lets one call take its next step, or brings a new call, or hands over a reply, or
leaves the calls alone. `transition` says once what each event does to calls, reservation and
traffic, and everything about runs of a sandbox is derived from it. -/

namespace FunctionHost.Sandbox

open Exchange

/-! ## Views of a sandbox -/

@[simp] theorem run_nil (s : Sandbox) : s.run [] = s := rfl

@[simp] theorem run_cons (s : Sandbox) (e : Event) (events : List Event) :
    s.run (e :: events) = (s.step e).run events := rfl

theorem run_append (s : Sandbox) (sooner later : List Event) :
    s.run (sooner ++ later) = (s.run sooner).run later := List.foldl_append

/-- A call has returned or was dropped. -/
def CallStage.IsOver : CallStage → Prop
  | .returned _ _ => True
  | .dropped => True
  | _ => False

/-- The id and the body of a reply that an event hands over and that is taken in. -/
def acceptedReply? (s : Sandbox) : Event → Option (String × Bytes)
  | .requests r =>
    match Api.repliedId? r with
    | some id => if Api.Accepts s.exchange r then some (id, r.body.bytes) else none
    | none => none
  | _ => none

/-- The calls of a sandbox after one of them moved on. -/
def moved (s : Sandbox) (call : Nat) (stage : CallStage) : List Call :=
  s.calls.modify call fun c => { c with stage }

/-! ## What a call does -/

/-- The next step of a call: where it comes to stand, and what happens to the traffic. -/
inductive Act (s : Sandbox) (call : Nat) (c : Call) : Event → CallStage → Traffic → Prop where
  | failsCheck (stage : c.stage = .reserved) (failed : s.exchange.phase = .failed) :
      s.Act call c (.checks call)
        (.returned (.failed .initDoneFailed) (Draft.blank.write (s.exchange.startError.getD [])))
        s.traffic
  | passesCheck (stage : c.stage = .reserved) (unfailed : s.exchange.phase ≠ .failed) :
      s.Act call c (.checks call) .admitted s.traffic
  | isRefused (now : Time.Instant) (reason : String) (stage : c.stage = .admitted)
      (exited : s.exchange.exitReason = some reason) :
      s.Act call c (.brings call now)
        (.returned (.failed .invokeDoneFailed) (exitDraft c.invocation.id reason))
        (s.traffic.step (.brings (.ofInvocation c.invocation now s.timeout)))
  | enrolls (now : Time.Instant) (stage : c.stage = .admitted)
      (running : s.exchange.exitReason = none) :
      s.Act call c (.brings call now) (.brought s.traffic.senders.length)
        (s.traffic.step (.brings (.ofInvocation c.invocation now s.timeout)))
  | hears (ticket : Ticket) (reply : Reply) (stage : c.stage = .brought ticket)
      (found : s.exchange.inbox ticket = .reply reply) :
      s.Act call c (.hears call) (answer c.invocation.id reply)
        { s.traffic with exchange := s.exchange.collect ticket }
  | hearsNothing (ticket : Ticket) (stage : c.stage = .brought ticket)
      (closed : s.exchange.inbox ticket = .closed) :
      s.Act call c (.hears call) (.returned (.failed .internalServerError) .blank) s.traffic
  | expires (ticket : Ticket) (stage : c.stage = .brought ticket)
      (unread : s.exchange.inbox ticket = .unread) :
      s.Act call c (.expires call) .expired s.traffic
  | forgets (stage : c.stage = .expired) :
      s.Act call c (.forgets call) .forgotten (s.traffic.step (.forgets c.invocation.id))
  | withdraws (stage : c.stage = .forgotten) :
      s.Act call c (.withdraws call) (.returned (.failed .invokeTimeout) .blank)
        (s.traffic.step (.withdraws c.invocation.id))
  | drops : s.Act call c (.drops call) .dropped s.traffic

/-- What an event does to calls, reservation and traffic. -/
inductive Transition (s : Sandbox) (e : Event) : Prop where
  | passes (events : List Traffic.Event) (neutral : ∀ event ∈ events, event.IsNeutral)
      (silent : s.acceptedReply? e = none) (traffic : (s.step e).traffic = s.traffic.run events)
      (calls : (s.step e).calls = s.calls) (holder : (s.step e).holder = s.holder)
      (marks : .marksReady ∈ events → ∃ r, e = .requests r ∧ Api.IsPoll r)
  | replies (id : String) (bytes : Bytes) (reply : Reply) (ticket : Ticket)
      (accepted : s.acceptedReply? e = some (id, bytes))
      (posted : reply = .response bytes ∨ reply = .error bytes)
      (waits : s.exchange.waiting.get? id = some ticket)
      (traffic : (s.step e).traffic = s.traffic.step (.replies id reply))
      (calls : (s.step e).calls = s.calls) (holder : (s.step e).holder = s.holder)
  | turnedAway (invocation : Invocation) (event : e = .arrives invocation) (held : s.holder ≠ none)
      (traffic : (s.step e).traffic = s.traffic)
      (calls : (s.step e).calls
        = s.calls ++ [⟨invocation, .returned (.failed .alreadyReserved) .blank⟩])
      (holder : (s.step e).holder = s.holder)
  | reserves (invocation : Invocation) (event : e = .arrives invocation) (free : s.holder = none)
      (traffic : (s.step e).traffic = s.traffic)
      (calls : (s.step e).calls = s.calls ++ [⟨invocation, .reserved⟩])
      (holder : (s.step e).holder = some s.calls.length)
  | acts (call : Nat) (c : Call) (stage : CallStage) (stands : s.calls[call]? = some c)
      (unfinished : ¬ c.stage.IsOver) (act : s.Act call c e stage (s.step e).traffic)
      (calls : (s.step e).calls = s.moved call stage)
      (keeps : ¬ stage.IsOver → (s.step e).holder = s.holder)
      (releases : stage.IsOver → (s.step e).holder = none)

/-! ## Every event is one of these -/

variable {s : Sandbox} {e : Event} {call : Nat} {c : Call}

theorem stepCall_none {act : Call → Option Sandbox} (h : s.calls[call]? = none) :
    s.stepCall call act = s := by
  simp [stepCall, h]

theorem stepCall_some {act : Call → Option Sandbox} (h : s.calls[call]? = some c) :
    s.stepCall call act = (act c).getD s := by
  simp [stepCall, h]

/-- What a call returns that is told of a start that failed. -/
theorem step_checks_of_failed (stands : s.calls[call]? = some c) (reserved : c.stage = .reserved)
    (failed : s.exchange.phase = .failed) :
    s.step (.checks call) = s.release call
      (.returned (.failed .initDoneFailed) (Draft.blank.write (s.exchange.startError.getD []))) := by
  simp [step, stepCall_some stands, reserved, check, failed]

theorem step_checks_of_unfailed (stands : s.calls[call]? = some c) (reserved : c.stage = .reserved)
    (unfailed : s.exchange.phase ≠ .failed) :
    s.step (.checks call) = s.moveCall call .admitted := by
  simp [step, stepCall_some stands, reserved, check, unfailed]

/-- What a call returns that brings its invocation after an exit. -/
theorem step_brings_of_exited (stands : s.calls[call]? = some c) (admitted : c.stage = .admitted)
    (now : Time.Instant) {reason : String} (exited : s.exchange.exitReason = some reason) :
    s.step (.brings call now)
      = (s.passing (.brings (.ofInvocation c.invocation now s.timeout))).release call
          (.returned (.failed .invokeDoneFailed) (exitDraft c.invocation.id reason)) := by
  have refused := Traffic.step_brings_of_exited (.ofInvocation c.invocation now s.timeout) exited
  simp [step, stepCall_some stands, admitted, bring, passing, refused]

theorem step_brings_of_running (stands : s.calls[call]? = some c) (admitted : c.stage = .admitted)
    (now : Time.Instant) (running : s.exchange.exitReason = none) :
    s.step (.brings call now)
      = (s.passing (.brings (.ofInvocation c.invocation now s.timeout))).moveCall call
          (.brought s.traffic.senders.length) := by
  have enrolled := Traffic.step_brings_of_running (.ofInvocation c.invocation now s.timeout) running
  simp [step, stepCall_some stands, admitted, bring, passing, enrolled]

/-- What a call returns that takes note of its reply. -/
theorem step_hears_of_reply {ticket : Ticket} {reply : Reply} (stands : s.calls[call]? = some c)
    (brought : c.stage = .brought ticket) (rung : s.hasRung ticket)
    (found : s.exchange.inbox ticket = .reply reply) :
    s.step (.hears call) = (s.withExchange (s.exchange.collect ticket)).release call
      (answer c.invocation.id reply) := by
  simp [step, stepCall_some stands, brought, rung, hear, found]

/-! ## Kinds of transitions -/

theorem Transition.still (silent : s.acceptedReply? e = none) (h : s.step e = s) :
    s.Transition e :=
  .passes [] (by simp) silent (by rw [h]; rfl) (by rw [h]) (by rw [h]) (by simp)

theorem Transition.passing {v : Traffic.Event} (silent : s.acceptedReply? e = none)
    (neutral : v.IsNeutral) (unmarked : v ≠ .marksReady) (h : s.step e = s.passing v) :
    s.Transition e :=
  .passes [v] (by simpa using neutral) silent (by rw [h]; rfl) (by rw [h]; rfl) (by rw [h]; rfl)
    (by simpa using fun heq => absurd heq.symm unmarked)

theorem Transition.moves {stage : CallStage} {t : Sandbox} (stands : s.calls[call]? = some c)
    (unfinished : ¬ c.stage.IsOver) (act : s.Act call c e stage t.traffic)
    (calls : t.calls = s.calls) (holder : t.holder = s.holder) (continues : ¬ stage.IsOver)
    (h : s.step e = t.moveCall call stage) : s.Transition e :=
  .acts call c stage stands unfinished (by rw [h]; exact act)
    (by rw [h]; simp [moveCall, moved, calls]) (fun _ => by rw [h]; exact holder)
    (fun ended => absurd ended continues)

theorem Transition.releases {stage : CallStage} {t : Sandbox} (stands : s.calls[call]? = some c)
    (unfinished : ¬ c.stage.IsOver) (act : s.Act call c e stage t.traffic)
    (calls : t.calls = s.calls) (ended : stage.IsOver)
    (h : s.step e = t.release call stage) : s.Transition e :=
  .acts call c stage stands unfinished (by rw [h]; exact act)
    (by rw [h]; simp [release, moveCall, moved, calls]) (fun continues => absurd ended continues)
    (fun _ => by rw [h]; rfl)

/-- A call that takes note of what became of its invocation ends if anything did. -/
private theorem transition_hears (stands : s.calls[call]? = some c) :
    s.Transition (.hears call) := by
  cases hstage : c.stage with
  | brought ticket =>
    have unfinished : ¬ c.stage.IsOver := by simp [hstage, CallStage.IsOver]
    by_cases rung : s.hasRung ticket
    · cases hinbox : s.exchange.inbox ticket with
      | reply reply =>
        refine .releases (t := s.withExchange (s.exchange.collect ticket)) stands unfinished
          (.hears ticket reply hstage hinbox) rfl ?_ (step_hears_of_reply stands hstage rung hinbox)
        cases reply <;> trivial
      | closed =>
        exact .releases stands unfinished (.hearsNothing ticket hstage hinbox) rfl trivial
          (by simp [step, stepCall_some stands, hstage, rung, hear, hinbox])
      | unread =>
        exact .still rfl (by simp [step, stepCall_some stands, hstage, rung, hear, hinbox])
    · exact .still rfl (by simp [step, stepCall_some stands, hstage, rung])
  | reserved | admitted | expired | forgotten | returned | dropped =>
    exact .still rfl (by simp [step, stepCall_some stands, hstage])

/-- A call that brings its invocation is refused or gets a ticket. -/
private theorem transition_brings (stands : s.calls[call]? = some c) (now : Time.Instant) :
    s.Transition (.brings call now) := by
  by_cases hstage : c.stage = .admitted
  · have unfinished : ¬ c.stage.IsOver := by simp [hstage, CallStage.IsOver]
    cases hexit : s.exchange.exitReason with
    | some reason =>
      exact .releases (t := s.passing (.brings (.ofInvocation c.invocation now s.timeout)))
        stands unfinished (.isRefused now reason hstage hexit) rfl trivial
        (step_brings_of_exited stands hstage now hexit)
    | none =>
      exact .moves (t := s.passing (.brings (.ofInvocation c.invocation now s.timeout)))
        stands unfinished (.enrolls now hstage hexit) rfl rfl (fun ended => ended)
        (step_brings_of_running stands hstage now hexit)
  · exact .still rfl (by simp [step, stepCall_some stands, hstage])

private theorem transition_checks (stands : s.calls[call]? = some c) :
    s.Transition (.checks call) := by
  by_cases hstage : c.stage = .reserved
  · have unfinished : ¬ c.stage.IsOver := by simp [hstage, CallStage.IsOver]
    by_cases hphase : s.exchange.phase = .failed
    · exact .releases stands unfinished (.failsCheck hstage hphase) rfl trivial
        (step_checks_of_failed stands hstage hphase)
    · exact .moves stands unfinished (.passesCheck hstage hphase) rfl rfl (fun ended => ended)
        (step_checks_of_unfailed stands hstage hphase)
  · exact .still rfl (by simp [step, stepCall_some stands, hstage])

private theorem transition_expires (stands : s.calls[call]? = some c) :
    s.Transition (.expires call) := by
  cases hstage : c.stage with
  | brought ticket =>
    have hstep : s.step (.expires call)
        = if s.hasRung ticket && s.exchange.inbox ticket = .unread then s.moveCall call .expired
          else s := by
      simp only [step, stepCall_some stands, hstage]
      split <;> rfl
    split at hstep
    · next hunread =>
      simp only [Bool.and_eq_true, decide_eq_true_eq] at hunread
      exact .moves stands (by simp [hstage, CallStage.IsOver]) (.expires ticket hstage hunread.2)
        rfl rfl (fun ended => ended) hstep
    · exact .still rfl hstep
  | reserved | admitted | expired | forgotten | returned | dropped =>
    exact .still rfl (by simp [step, stepCall_some stands, hstage])

private theorem transition_arrives (invocation : Invocation) :
    s.Transition (.arrives invocation) := by
  cases hholder : s.holder with
  | some holder =>
    exact .turnedAway invocation rfl (by simp [hholder]) (by simp [step, arrive, hholder])
      (by simp [step, arrive, hholder]) (by simp [step, arrive, hholder])
  | none =>
    exact .reserves invocation rfl hholder (by simp [step, arrive, hholder])
      (by simp [step, arrive, hholder]) (by simp [step, arrive, hholder])

/-- Only a request that hands over a reply is more to calls than other traffic. -/
private theorem transition_requests (r : Http.Request) : s.Transition (.requests r) := by
  cases Api.handled s.exchange r with
  | ignored response handled rejected =>
    have hstep : s.step (.requests r) = (s.withExchange s.exchange).logging [] := by
      simp only [step, request, handled]
    have hrejects : ¬ Api.Accepts s.exchange r := by
      simpa [Api.Accepts, Api.answer?, handled] using rejected
    refine .passes [] (by simp) ?_ (by rw [hstep]; rfl) (by rw [hstep]; rfl) (by rw [hstep]; rfl)
      (by simp)
    simp only [acceptedReply?, if_neg hrejects]
    split <;> rfl
  | replies id reply x replied posted delivered handled =>
    have haccepts : Api.Accepts s.exchange r := by
      simp [Api.Accepts, Api.answer?, handled]
      rfl
    have haccepted : s.acceptedReply? (.requests r) = some (id, r.body.bytes) := by
      simp [acceptedReply?, replied, haccepts]
    have hstep : s.step (.requests r) = (s.withExchange x).logging [] := by
      simp only [step, request, handled]
    have delivered' : s.traffic.exchange.deliver? id reply = some x := delivered
    cases hwaits : s.exchange.waiting.get? id with
    | none => simp [deliver?, hwaits] at delivered
    | some ticket =>
      exact .replies id r.body.bytes reply ticket haccepted posted hwaits
        (by rw [hstep]; simp only [Traffic.step, delivered']; rfl) (by rw [hstep]; rfl)
        (by rw [hstep]; rfl)
  | startError logged other posted handled =>
    have hstep : s.step (.requests r)
        = (s.withExchange (s.exchange.failStart r.body.bytes)).logging logged := by
      simp only [step, request, handled]
    exact .passes [.failsStart r.body.bytes] (by simp [Traffic.Event.IsNeutral])
      (by simp [acceptedReply?, other])
      (by rw [hstep]; rfl) (by rw [hstep]; rfl) (by rw [hstep]; rfl) (by simp)
  | polls other poll handled =>
    have hstep : s.step (.requests r) = (s.withExchange s.exchange.markReady).passing .asks := by
      simp only [step, request, handled]
    exact .passes [.marksReady, .asks] (by simp [Traffic.Event.IsNeutral])
      (by simp [acceptedReply?, other])
      (by rw [hstep]; rfl) (by rw [hstep]; rfl) (by rw [hstep]; rfl) (fun _ => ⟨r, rfl, poll⟩)

theorem transition (s : Sandbox) (e : Event) : s.Transition e := by
  have absent {call : Nat} {act : Call → Option Sandbox} (silent : s.acceptedReply? e = none)
      (h : s.step e = s.stepCall call act) (stands : s.calls[call]? = none) : s.Transition e :=
    .still silent (h.trans (stepCall_none stands))
  cases e with
  | arrives invocation => exact transition_arrives invocation
  | checks call =>
    cases hcall : s.calls[call]? with
    | none => exact absent rfl rfl hcall
    | some c => exact transition_checks hcall
  | brings call now =>
    cases hcall : s.calls[call]? with
    | none => exact absent rfl rfl hcall
    | some c => exact transition_brings hcall now
  | queues call =>
    cases hcall : s.calls[call]? with
    | none => exact absent rfl rfl hcall
    | some c =>
      cases hstage : c.stage with
      | brought ticket =>
        exact .passing (v := .queues ticket) rfl trivial (by simp)
          (by simp [step, stepCall_some hcall, hstage])
      | reserved | admitted | expired | forgotten | returned | dropped =>
        exact .still rfl (by simp [step, stepCall_some hcall, hstage])
  | rings call =>
    cases hcall : s.calls[call]? with
    | none => exact absent rfl rfl hcall
    | some c =>
      cases hstage : c.stage with
      | brought ticket =>
        exact .passing (v := .rings ticket) rfl trivial (by simp)
          (by simp [step, stepCall_some hcall, hstage])
      | reserved | admitted | expired | forgotten | returned | dropped =>
        exact .still rfl (by simp [step, stepCall_some hcall, hstage])
  | hears call =>
    cases hcall : s.calls[call]? with
    | none => exact absent rfl rfl hcall
    | some c => exact transition_hears hcall
  | expires call =>
    cases hcall : s.calls[call]? with
    | none => exact absent rfl rfl hcall
    | some c => exact transition_expires hcall
  | forgets call =>
    cases hcall : s.calls[call]? with
    | none => exact absent rfl rfl hcall
    | some c =>
      by_cases hstage : c.stage = .expired
      · exact .moves (t := s.passing (.forgets c.invocation.id)) hcall
          (by simp [hstage, CallStage.IsOver]) (.forgets hstage) rfl rfl (fun ended => ended)
          (by simp [step, stepCall_some hcall, hstage])
      · exact .still rfl (by simp [step, stepCall_some hcall, hstage])
  | withdraws call =>
    cases hcall : s.calls[call]? with
    | none => exact absent rfl rfl hcall
    | some c =>
      by_cases hstage : c.stage = .forgotten
      · exact .releases (t := s.passing (.withdraws c.invocation.id)) hcall
          (by simp [hstage, CallStage.IsOver]) (.withdraws hstage) rfl trivial
          (by simp [step, stepCall_some hcall, hstage])
      · exact .still rfl (by simp [step, stepCall_some hcall, hstage])
  | drops call =>
    cases hcall : s.calls[call]? with
    | none => exact absent rfl rfl hcall
    | some c =>
      cases hstage : c.stage with
      | reserved | admitted | brought | expired | forgotten =>
        exact .releases hcall (by simp [hstage, CallStage.IsOver]) .drops rfl trivial
          (by simp [step, stepCall_some hcall, hstage])
      | returned | dropped => exact .still rfl (by simp [step, stepCall_some hcall, hstage])
  | requests r => exact transition_requests r
  | looks poller => exact .passing (v := .looks poller) rfl trivial (by simp) rfl
  | sleeps poller => exact .passing (v := .sleeps poller) rfl trivial (by simp) rfl
  | leaves poller => exact .passing (v := .leaves poller) rfl trivial (by simp) rfl
  | reports exit => exact .passing (v := .reports exit) rfl trivial (by simp) rfl
  | exits program reason =>
    exact .passes [.exits reason (startExitDocument reason)] (by simp [Traffic.Event.IsNeutral])
      rfl rfl rfl rfl (by simp)
  | begins timeout refusal =>
    cases refusal with
    | some problem =>
      exact .passes [.failsStart (launchDocument problem.message)]
        (by simp [Traffic.Event.IsNeutral]) rfl rfl rfl rfl (by simp)
    | none => exact .passes [] (by simp) rfl rfl rfl rfl (by simp)
  | settles start | lapses start =>
    refine .passes [] (by simp) rfl ?_ ?_ ?_ (by simp) <;> simp only [step] <;> split <;> rfl
  | yields start =>
    by_cases hstart : s.starts[start]? = some .overdue
    · refine .passes [.failsStart overdueDocument] (by simp [Traffic.Event.IsNeutral]) rfl ?_ ?_ ?_
        (by simp) <;> simp [step, hstart, passing, moveStart]
    · exact .still rfl (by simp [step, hstart])

/-! ## What holds of the traffic -/

/-- What every event of the traffic preserves, and reading mail does, every event of the sandbox
    preserves. -/
theorem preserved_step (P : Traffic → Prop) (h : P s.traffic)
    (step : ∀ t v, v.IsGenuine → P t → P (t.step v))
    (collect : ∀ t i, P t → P { t with exchange := t.exchange.collect i }) (e : Event) :
    P (s.step e).traffic := by
  have hrun (t : Traffic) (events : List Traffic.Event)
      (neutral : ∀ event ∈ events, event.IsNeutral) (ht : P t) : P (t.run events) := by
    induction events generalizing t with
    | nil => exact ht
    | cons v rest ih =>
      obtain ⟨hneutral, hrest⟩ := List.forall_mem_cons.1 neutral
      exact ih (t.step v) hrest (step t v hneutral.isGenuine ht)
  cases transition s e with
  | passes events neutral _ traffic _ _ _ => exact traffic ▸ hrun s.traffic events neutral h
  | replies id bytes reply ticket _ posted _ traffic _ _ =>
    refine traffic ▸ step s.traffic _ ?_ h
    rcases posted with rfl | rfl <;> trivial
  | turnedAway _ _ _ traffic _ _ | reserves _ _ _ traffic _ _ => exact traffic ▸ h
  | acts _ _ _ _ _ act _ _ _ =>
    generalize (s.step e).traffic = t at act
    cases act with
    | failsCheck | passesCheck | hearsNothing | expires | drops => exact h
    | hears ticket => exact collect _ ticket h
    | isRefused | enrolls | forgets | withdraws => exact step _ _ trivial h

theorem stage_of_returned? {outcome : Outcome} {draft : Draft} (hc : s.calls[call]? = some c)
    (h : s.returned? call = some (outcome, draft)) : c.stage = .returned outcome draft := by
  simp only [returned?, callStage?, hc, Option.map_some] at h
  split at h
  · next hstage =>
    cases h
    exact Option.some.inj hstage
  · cases h

/-- An invocation with nothing but an id. -/
def plain (id : String) : Invocation :=
  ⟨id, "", "", "", []⟩

/-- A request that posts a body under a path. -/
def posting (path : String) (body : Bytes) : Http.Request :=
  ⟨.post, ⟨none, path, none⟩, .empty, ⟨body, none⟩⟩

/-- A request for the next invocation. -/
def polling : Http.Request :=
  ⟨.get, ⟨none, "/2018-06-01/runtime/invocation/next", none⟩, .empty, ⟨[], none⟩⟩

end FunctionHost.Sandbox
