-- SUMMARY: A reply of up to two mebibytes serves the call that waits for it, and a longer one is turned down.
import FunctionHost.Proofs.Endpoint.Routing
import FunctionHost.Proofs.Sandbox.Mailed

/-! # The size of replies

The interface for the function reads no more of a body than a fixed number of bytes, while the
endpoint that takes invocations in reads bodies of any length. So what is handed to the function may
be too long to be given back: a reply that is too long is turned down and leaves the call waiting,
until its time is over. -/

namespace FunctionHost

namespace Sandbox

open Exchange

variable {s : Sandbox}

/-- A reply that is too long leaves everything as it is. -/
theorem step_requests_of_long {r : Http.Request} {id : String}
    (replied : Api.repliedId? r = some id) (long : Api.maxBody < r.body.bytes.length) :
    s.step (.requests r) = s := by
  have hstep : s.step (.requests r) = (s.withExchange s.exchange).logging [] := by
    simp only [step, request, Api.handle_of_long replied long]
  rw [hstep]
  simp [withExchange, logging, exchange]

/-- A reply to a call that listens is taken in, if it arrives as a whole and is not too long. -/
theorem Listens.answer? {call : Nat} {c : Call} (h : s.Listens call c) {r : Http.Request}
    (replied : Api.repliedId? r = some c.invocation.id) (whole : r.body.failure = none)
    (short : r.body.bytes.length ≤ Api.maxBody) :
    Api.answer? s.exchange r = some (.bare .accepted) := by
  obtain ⟨-, ticket, -, waits⟩ := h
  rw [Api.answer?_of_whole replied short whole, waits]
  rfl

/-- The reply to a call that listens is taken in if its body is not longer than the limit, and then
    the call returns just this body, as soon as it has taken the steps it had left. If the body is
    longer, the reply is turned down and the call goes on waiting as if there had been none. A request
    that invokes the function, on the other hand, is taken in with a body of any length. -/
theorem reply_serves_up_to_limit (before : List Event) (call : Nat) (c : Call) (r : Http.Request)
    (listens : (fresh.run before).Listens call c)
    (replied : Api.repliedId? r = some c.invocation.id) (whole : r.body.failure = none) :
    (r.body.bytes.length ≤ Api.maxBody →
      Api.answer? (fresh.run before).exchange r = some (.bare .accepted) ∧
      ∀ (after : List Event) (now : Time.Instant), .drops call ∉ after →
        ((fresh.run before).step (.requests r)).ComesTo call
          ((ownSteps call now).drop ((fresh.run before).progress c)) after
          (.served, ⟨some .ok, r.body.bytes⟩)) ∧
    (Api.maxBody < r.body.bytes.length →
      Api.answer? (fresh.run before).exchange r = some Api.tooLong ∧
      (fresh.run before).step (.requests r) = fresh.run before) ∧
    (∀ q : Http.Request, q.method = .post → q.uri.path = Endpoint.invocationsPath →
      q.body.failure = none → Endpoint.receive q = .called ⟨q.headers, q.body.bytes⟩) := by
  refine ⟨?_, ?_, ?_⟩
  · intro short
    have hanswer := listens.answer? replied whole short
    have accepted : (fresh.run before).acceptedReply? (.requests r)
        = some (c.invocation.id, r.body.bytes) := by
      refine acceptedReply?_eq_some_iff.2 ⟨r, rfl, replied, ?_, rfl⟩
      rw [Api.Accepts, hanswer]
      rfl
    exact ⟨hanswer, fun after now stays =>
      listens.served (Orderly.fresh.run before) accepted stays now⟩
  · intro long
    refine ⟨?_, step_requests_of_long replied long⟩
    rw [Api.answer?, Api.handle_of_long replied long]
  · intro q posted path unbroken
    rw [Endpoint.receive_of_invocationsPath posted path, Endpoint.withBody_of_whole unbroken]

/-- A call has brought its invocation and waits for the reply. -/
def waitingForReply : List Event :=
  [.requests polling, .arrives (plain "a"), .checks 0, .brings 0 ⟨0⟩, .queues 0, .rings 0]

/-- A response to this call, of some length. -/
def responseOfLength (length : Nat) : Http.Request :=
  posting "/2018-06-01/runtime/invocation/a/response" (List.replicate length 0)

theorem repliedId?_responseOfLength (length : Nat) :
    Api.repliedId? (responseOfLength length) = some "a" := by
  have route : Api.Route.ofPath? "/2018-06-01/runtime/invocation/a/response"
      = some (.response (some "a")) := by decide +kernel
  simp [Api.repliedId?, responseOfLength, posting, route]

theorem listens_waitingForReply :
    (fresh.run waitingForReply).Listens 0 ⟨plain "a", .brought 0⟩ :=
  ⟨by decide +kernel, 0, rfl, by decide +kernel⟩

/-- A response that is just as long as it may be serves the call. -/
theorem reply_serves_at_limit :
    (responseOfLength Api.maxBody).body.bytes.length = Api.maxBody ∧
    (fresh.run (waitingForReply ++ [.requests (responseOfLength Api.maxBody), .hears 0])).returned? 0
      = some (.served, ⟨some .ok, List.replicate Api.maxBody 0⟩) := by
  have length : (responseOfLength Api.maxBody).body.bytes.length = Api.maxBody :=
    List.length_replicate
  obtain ⟨within, -, -⟩ := reply_serves_up_to_limit waitingForReply 0 ⟨plain "a", .brought 0⟩
    (responseOfLength Api.maxBody) listens_waitingForReply (repliedId?_responseOfLength _) rfl
  obtain ⟨-, serves⟩ := within (Nat.le_of_eq length)
  refine ⟨length, ?_⟩
  rw [run_append, run_cons]
  exact (serves [.hears 0] ⟨0⟩ (by decide)).ends (by decide +kernel)

/-- A response that is longer by one byte is turned down, and the call that waited for it runs out of
    time. -/
theorem longer_reply_is_lost :
    Api.repliedId? (responseOfLength (Api.maxBody + 1)) = some "a" ∧
    (fresh.run waitingForReply).Listens 0 ⟨plain "a", .brought 0⟩ ∧
    Api.answer? (fresh.run waitingForReply).exchange (responseOfLength (Api.maxBody + 1))
      ≠ some (.bare .accepted) ∧
    (fresh.run (waitingForReply ++
        [.requests (responseOfLength (Api.maxBody + 1)), .expires 0, .forgets 0, .withdraws 0])).returned?
      0 = some (.failed .invokeTimeout, .blank) := by
  have replied := repliedId?_responseOfLength (Api.maxBody + 1)
  have long : Api.maxBody < (responseOfLength (Api.maxBody + 1)).body.bytes.length := by
    simp [responseOfLength, posting]
  refine ⟨replied, listens_waitingForReply, ?_, ?_⟩
  · rw [Api.answer?, Api.handle_of_long replied long]
    decide
  · rw [run_append, run_cons, step_requests_of_long replied long]
    decide +kernel

end Sandbox

end FunctionHost
