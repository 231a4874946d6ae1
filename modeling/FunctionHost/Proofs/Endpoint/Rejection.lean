-- SUMMARY: Requests that are not dispatched leave nothing behind but entries in the log.
import FunctionHost.Proofs.Endpoint.Routing

/-! # Rejected requests

A request with a wrong method, or one whose body breaks off, is answered at once and without a
body. It adds to the log of the endpoint and changes nothing else. What an endpoint does never
depends on its log, so whatever comes later goes as if the request had never been sent. -/

namespace FunctionHost.Endpoint

open Http.Uri (IsRooted)

/-- A request is not to be dispatched: its method is wrong, or its body breaks off although it is
    posted to a path that stands for a text. -/
def Rejected (r : Http.Request) : Prop :=
  r.method ≠ .post ∨
    (IsRooted r.uri.path ∧ decodedPath? r.uri.path ≠ none ∧ r.body.failure ≠ none)

/-- What can happen to an endpoint: a request comes, or an event occurs. -/
inductive Input where
  | comes (r : Http.Request)
  | occurs (v : Event)
  deriving DecidableEq

/-- An endpoint after an input, and the answer that was given at once, if there was one. -/
def attend (e : Endpoint) : Input → Endpoint × Option Http.Response
  | .comes r => e.accept r
  | .occurs v => (e.step v, none)

/-- An endpoint after several inputs, and the answers that were given at once. -/
def attendAll (e : Endpoint) : List Input → Endpoint × List (Option Http.Response)
  | [] => (e, [])
  | i :: rest => (((e.attend i).1.attendAll rest).1,
      (e.attend i).2 :: ((e.attend i).1.attendAll rest).2)

variable {e : Endpoint} {r : Http.Request}

/-! ## The log is never read -/

theorem stage?_log (e : Endpoint) (task : Nat) (log : List Log.Entry) :
    ({ e with log := log } : Endpoint).stage? task = e.stage? task := rfl

theorem moveAll_log (e : Endpoint) (tasks : List Nat) (stage : Stage) (log : List Log.Entry) :
    ({ e with log := log } : Endpoint).moveAll tasks stage
      = { e.moveAll tasks stage with log := log } := by
  induction tasks generalizing e with
  | nil => rfl
  | cons task rest ih => exact ih (e.move task stage)

/-- Whatever the log is, an event does the same and adds the same entries. -/
theorem step_log (e : Endpoint) (v : Event) : ∃ added, ∀ log,
    ({ e with log := log } : Endpoint).step v = { e.step v with log := log ++ added } := by
  by_cases applies : e.Applies v
  · cases v with
    | arrives call => exact ⟨[], fun log => by rw [List.append_nil]; rfl⟩
    | startReturns failure elapsed =>
      obtain ⟨runner, running⟩ := Option.isSome_iff_exists.1 applies
      refine ⟨Plan.logged failure, fun log => ?_⟩
      simp only [step, running, startReturned_eq, moveAll_log]
      rfl
    | invokes task id =>
      obtain ⟨init, stands⟩ := applies
      obtain ⟨⟨call, _⟩, found, rfl⟩ := Option.map_eq_some_iff.1 stands
      refine ⟨(e.sink.write (.started id e.plan.settings.version)).2, fun log => ?_⟩
      simp only [step, found]
      rfl
    | returns task outcome draft elapsed =>
      obtain ⟨id, init, stands⟩ := applies
      refine ⟨Disposition.logged outcome, fun log => ?_⟩
      simp only [step, stage?_log, stands]
      rfl
    | writes task =>
      obtain ⟨line, rest, answer, pause, stands⟩ := applies
      refine ⟨(e.sink.write line).2, fun log => ?_⟩
      simp only [step, stage?_log, stands]
      rfl
    | resumes task =>
      obtain ⟨answer, stands⟩ := applies
      exact ⟨[], fun log => by simp only [step, stage?_log, stands, List.append_nil]; rfl⟩
    | leaves task =>
      obtain ⟨stage, stands, unanswered⟩ := applies
      refine ⟨[], fun log => ?_⟩
      cases stage <;> simp only [step, stage?_log, stands, List.append_nil] <;> rfl
  · exact ⟨[], fun log => by
      rw [step_of_idle applies, step_of_idle (e := { e with log := log }) applies, List.append_nil]⟩

/-- Whatever the log is, an input does the same, is answered in the same way and adds the same
    entries. -/
theorem attend_log (e : Endpoint) (i : Input) : ∃ added, ∀ log,
    ({ e with log := log } : Endpoint).attend i
      = ({ (e.attend i).1 with log := log ++ added }, (e.attend i).2) := by
  cases i with
  | occurs v =>
    obtain ⟨added, hstep⟩ := step_log e v
    exact ⟨added, fun log => Prod.ext (hstep log) rfl⟩
  | comes r =>
    cases hreceive : receive r with
    | answered response logged =>
      exact ⟨logged, fun log => by simp only [attend, accept, hreceive, logging]⟩
    | called call =>
      obtain ⟨added, hstep⟩ := step_log e (.arrives call)
      refine ⟨added, fun log => ?_⟩
      simp only [attend, accept, hreceive]
      -- Not by `simp`: an endpoint is itself with its own log, so `hstep` rewrites its own result.
      rw [hstep log]

theorem attendAll_log (e : Endpoint) (inputs : List Input) : ∃ added, ∀ log,
    ({ e with log := log } : Endpoint).attendAll inputs
      = ({ (e.attendAll inputs).1 with log := log ++ added }, (e.attendAll inputs).2) := by
  induction inputs generalizing e with
  | nil => exact ⟨[], fun log => by simp [attendAll]⟩
  | cons i rest ih =>
    obtain ⟨first, hfirst⟩ := attend_log e i
    obtain ⟨later, hlater⟩ := ih (e.attend i).1
    refine ⟨first ++ later, fun log => ?_⟩
    rw [attendAll, hfirst log, hlater (log ++ first), List.append_assoc]
    rfl

/-! ## Rejected requests -/

/-- A request that is not to be dispatched is answered at once, without a body. -/
theorem receive_of_rejected (rejected : Rejected r) :
    ∃ answer logged, receive r = .answered answer logged ∧ answer.body = [] := by
  by_cases rooted : IsRooted r.uri.path
  · by_cases posted : r.method = .post
    · obtain ⟨_, readable, broken⟩ := rejected.resolve_left (not_not_intro posted)
      obtain ⟨payload, hreceive⟩ := receive_of_readable rooted posted readable
      exact ⟨_, _, hreceive.trans (withBody_of_broken broken payload), rfl⟩
    · exact ⟨_, _, receive_of_other rooted posted, rfl⟩
  · exact ⟨_, _, receive_of_unrooted rooted, rfl⟩

/-- A request with a wrong method, or one that is posted to a path that stands for a text but whose
    body breaks off, is answered at once and without a body, and all that it changes about the
    endpoint is that its log gets longer. Whatever comes later, requests are answered in the same
    way and the endpoint comes to the same state as if the request had never been sent, and the
    same entries are logged on the way. -/
theorem rejected_leaves_no_trace (e : Endpoint) (r : Http.Request) (rejected : Rejected r) :
    ∃ answer logged,
      e.accept r = ({ e with log := e.log ++ logged }, some answer) ∧ answer.body = [] ∧
      ∀ later, ∃ added,
        (e.attendAll later).1.log = e.log ++ added ∧
        (e.accept r).1.attendAll later
          = ({ (e.attendAll later).1 with log := e.log ++ logged ++ added },
              (e.attendAll later).2) := by
  obtain ⟨answer, logged, hreceive, hbody⟩ := receive_of_rejected rejected
  have haccept : e.accept r = ({ e with log := e.log ++ logged }, some answer) := by
    simp only [accept, hreceive, logging]
  refine ⟨answer, logged, haccept, hbody, fun later => ?_⟩
  obtain ⟨added, hlater⟩ := attendAll_log e later
  refine ⟨added, ?_, by rw [haccept, hlater]⟩
  exact congrArg (fun result => result.1.log) (hlater e.log)

/-- A request to the root without header fields and with an empty body. -/
def rootRequest (method : Http.Method) : Http.Request :=
  ⟨method, ⟨none, "/", none⟩, .empty, ⟨[], none⟩⟩

/-- A request that is posted to the root and breaks off after one byte. -/
def brokenOff : Http.Request :=
  { rootRequest .post with body := ⟨[0x7B], some "connection reset"⟩ }

/-- The first request of an endpoint is posted, starts the sandbox and is invoked, and somebody asks
    with a wrong method in between. -/
def firstServed : List Input :=
  [ .comes (rootRequest .post), .comes (rootRequest .get),
    .occurs (.startReturns none (.ofSeconds 1)), .occurs (.invokes 0 "a") ]

theorem rejected_leaves_no_trace_brokenOff :
    Rejected brokenOff ∧
    ∃ answer, ((fresh plainPlan .unlimited).accept brokenOff).2 = some answer ∧ answer.body = [] ∧
      ((fresh plainPlan .unlimited).accept brokenOff).1.starts = [] ∧
      (((fresh plainPlan .unlimited).accept brokenOff).1.attendAll firstServed).2
        = ((fresh plainPlan .unlimited).attendAll firstServed).2 ∧
      (((fresh plainPlan .unlimited).accept brokenOff).1.attendAll firstServed).1.invocations
        = ((fresh plainPlan .unlimited).attendAll firstServed).1.invocations := by
  have readable : decodedPath? "/" ≠ none := by decide +kernel
  have rejected : Rejected brokenOff := .inr ⟨by decide +kernel, readable, by simp [brokenOff]⟩
  obtain ⟨answer, logged, haccept, hbody, hlater⟩ :=
    rejected_leaves_no_trace (fresh plainPlan .unlimited) brokenOff rejected
  obtain ⟨added, -, hsame⟩ := hlater firstServed
  refine ⟨rejected, answer, by rw [haccept], hbody, by rw [haccept]; rfl, ?_, ?_⟩
  · rw [hsame]
  · rw [hsame]

end FunctionHost.Endpoint
