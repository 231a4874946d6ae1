-- SUMMARY: Taking an invocation out of the queue, and when the answer then carries it.
import FunctionHost.Exchange.Operation
import FunctionHost.Proofs.Exchange.Api
import FunctionHost.Proofs.Http.HeaderText

/-! # Handing out invocations

An invocation is taken out of the queue before the answer that hands it out is made. The answer
cannot be made if the id, the name or the trace of the invocation may not stand in a header field,
and it loses the payload if it answers a `HEAD`. In both cases the invocation is gone from the
queue and nobody has it. Nothing else that a request does touches the queue, and no other answer
looks like one that hands out an invocation. -/

namespace FunctionHost.Exchange.Api

/-- An answer hands out an invocation: it succeeds, says under which id, until when and under which
    name to serve it and which trace it belongs to, and has the payload for its body. -/
structure Delivers (response : Http.Response) (q : Queued) : Prop where
  status : response.status = .ok
  id : response.header? "lambda-runtime-aws-request-id" = some q.invocation.id
  deadline : response.header? "lambda-runtime-deadline-ms" = some (toString q.deadline.millis)
  arn : response.header? "lambda-runtime-invoked-function-arn" = some q.invocation.arn
  trace : response.header? "lambda-runtime-trace-id" =
    if q.invocation.trace.isEmpty then none else some q.invocation.trace
  body : response.body = q.invocation.payload

/-- An invocation that can be handed out in the answer to a request with a given method. -/
structure Deliverable (method : Http.Method) (q : Queued) : Prop where
  id : ∀ c ∈ q.invocation.id.toList, Http.IsShown c
  arn : ∀ c ∈ q.invocation.arn.toList, Http.IsShown c
  trace : ∀ c ∈ q.invocation.trace.toList, Http.IsShown c
  payload : method = .head → q.invocation.payload = []

/-- When a request is worked on: as it comes in, or once it was woken after it found no
    invocation. -/
inductive Turn where
  | comes
  | wakes
  deriving DecidableEq

/-- What is done about a request in its turn: the exchange afterwards, and the answer unless the
    request goes on waiting. -/
def take (x : Exchange) (p : Poller) (r : Http.Request) : Turn → Exchange × Option Http.Response
  | .comes => ((serve x p r).1, (serve x p r).2.2)
  | .wakes => ((x.retry p).2, (x.retry p).1.map (deliveryFor r.method))

/-- What became of the queue when a request with a given method got its answer, or none yet: either
    the first invocation was taken, and it was handed out exactly if it can be, or nothing was
    taken, and the answer hands out no invocation whatsoever. -/
inductive Takes (method : Http.Method) (x x' : Exchange) (answer : Option Http.Response) :
    Prop where
  | first (q : Queued) (response : Http.Response) (taken : x.queue = q :: x'.queue)
      (answered : answer = some response)
      (delivered : Delivers response q ↔ Deliverable method q)
  | nothing (kept : x'.queue = x.queue)
      (other : ∀ response, answer = some response → ∀ q, ¬ Delivers response q)

variable {x x' : Exchange} {p : Poller} {r : Http.Request} {q : Queued}
  {response : Http.Response} {logged : List Log.Entry}

/-! ## Answers that hand out an invocation -/

theorem find?_deliveryFields (q : Queued) :
    ((deliveryFields q).find? fun (_, value) => !Http.isHeaderText value) = none ↔
      Http.isHeaderText q.invocation.id = true ∧ Http.isHeaderText q.invocation.arn = true ∧
        Http.isHeaderText q.invocation.trace = true := by
  have hdeadline := Http.isHeaderText_toString q.deadline.millis
  rw [deliveryFields]
  generalize toString q.deadline.millis = deadline at hdeadline
  by_cases htrace : q.invocation.trace = ""
  · have hempty : Http.isHeaderText "" = true := by decide
    simp [hdeadline, htrace, hempty]
  · simp only [List.find?_append, Option.or_eq_none_iff]
    simp [hdeadline, htrace, and_assoc]

/-- The names of the header fields as they are sent. -/
theorem lower_deliveryFields (q : Queued) :
    (deliveryFields q).map (fun (name, value) => (name.toLower, value)) =
      [ ("lambda-runtime-aws-request-id", q.invocation.id),
        ("lambda-runtime-deadline-ms", toString q.deadline.millis),
        ("lambda-runtime-invoked-function-arn", q.invocation.arn) ]
      ++ (if q.invocation.trace.isEmpty then []
          else [("lambda-runtime-trace-id", q.invocation.trace)]) := by
  have hid : "Lambda-Runtime-Aws-Request-Id".toLower = "lambda-runtime-aws-request-id" := by
    decide +kernel
  have hdeadline : "Lambda-Runtime-Deadline-Ms".toLower = "lambda-runtime-deadline-ms" := by
    decide +kernel
  have harn : "Lambda-Runtime-Invoked-Function-Arn".toLower =
      "lambda-runtime-invoked-function-arn" := by
    decide +kernel
  have htrace : "Lambda-Runtime-Trace-Id".toLower = "lambda-runtime-trace-id" := by
    decide +kernel
  rw [deliveryFields, List.map_append]
  simp only [List.map_cons, List.map_nil, hid, hdeadline, harn]
  split
  · rfl
  · rw [List.map_cons, List.map_nil, htrace]

/-- The header fields of an invocation can be made unless its id, its name or its trace has a
    character that may not stand in one. The deadline never stands in the way. -/
theorem status_delivery_iff (q : Queued) :
    (delivery q).status = .ok ↔
      (∀ c ∈ q.invocation.id.toList, Http.IsShown c) ∧
      (∀ c ∈ q.invocation.arn.toList, Http.IsShown c) ∧
      (∀ c ∈ q.invocation.trace.toList, Http.IsShown c) := by
  simp only [← Http.isHeaderText_iff]
  rw [← find?_deliveryFields, delivery]
  split
  · next found =>
    rw [found]
    exact iff_of_false (show Http.Status.internalServerError ≠ .ok by decide) nofun
  · next fits => exact iff_of_true rfl fits

theorem delivers_of_status_delivery (h : (delivery q).status = .ok) : Delivers (delivery q) q := by
  revert h
  rw [delivery]
  split
  · exact fun h => absurd h (show Http.Status.internalServerError ≠ .ok by decide)
  · intro _
    rw [lower_deliveryFields]
    refine ⟨rfl, rfl, rfl, rfl, ?_, rfl⟩
    dsimp only [Http.Response.header?]
    split <;> rfl

theorem delivers_withoutBody_iff (q : Queued) :
    Delivers (delivery q).withoutBody q ↔
      (delivery q).status = .ok ∧ q.invocation.payload = [] := by
  constructor
  · intro delivers
    exact ⟨delivers.status, delivers.body.symm⟩
  · rintro ⟨status, empty⟩
    have delivers := delivers_of_status_delivery status
    exact ⟨delivers.status, delivers.id, delivers.deadline, delivers.arn, delivers.trace,
      empty.symm⟩

/-- The answer to a poll hands out an invocation exactly if it can be handed out. -/
theorem delivers_deliveryFor_iff (method : Http.Method) (q : Queued) :
    Delivers (deliveryFor method q) q ↔ Deliverable method q := by
  rw [deliveryFor]
  split
  · next hhead =>
    rw [delivers_withoutBody_iff, status_delivery_iff]
    constructor
    · rintro ⟨⟨id, arn, trace⟩, empty⟩
      exact ⟨id, arn, trace, fun _ => empty⟩
    · intro h
      exact ⟨⟨h.id, h.arn, h.trace⟩, h.payload hhead⟩
  · next hget =>
    constructor
    · intro delivers
      obtain ⟨id, arn, trace⟩ := (status_delivery_iff q).1 delivers.status
      exact ⟨id, arn, trace, fun hhead => absurd hhead hget⟩
    · intro h
      exact delivers_of_status_delivery ((status_delivery_iff q).2 ⟨h.id, h.arn, h.trace⟩)

/-! ## Other answers -/

theorem status_of_body? {b : Http.Body} (h : body? b = .error response) :
    response.status ≠ .ok := by
  simp only [body?] at h
  split at h
  · cases h
    exact show Http.Status.payloadTooLarge ≠ .ok by decide
  · split at h <;> cases h
    exact show Http.Status.badRequest ≠ .ok by decide

theorem status_of_postReply {id : Option String} {reply : Bytes → Reply}
    (h : postReply x id r.body reply = .answered response x' logged) : response.status ≠ .ok := by
  simp only [postReply] at h
  split at h
  · cases h
    exact show Http.Status.badRequest ≠ .ok by decide
  · split at h
    · next refused =>
      cases h
      exact status_of_body? refused
    · split at h
      · cases h
        exact show Http.Status.accepted ≠ .ok by decide
      · cases h
        exact show Http.Status.notFound ≠ .ok by decide

theorem status_of_answered (h : handle x r = .answered response x' logged) :
    response.status ≠ .ok := by
  simp only [handle] at h
  split at h
  · cases h
    exact show Http.Status.notFound ≠ .ok by decide
  · split at h
    · cases h
      exact show Http.Status.methodNotAllowed ≠ .ok by decide
    · split at h
      · cases h
      · exact status_of_postReply h
      · exact status_of_postReply h
      · simp only [postStartError] at h
        split at h
        · next refused =>
          cases h
          exact status_of_body? refused
        · cases h
          exact show Http.Status.accepted ≠ .ok by decide

theorem queue_of_answered (h : handle x r = .answered response x' logged) :
    x'.queue = x.queue := by
  cases handled x r with
  | ignored _ handled _ =>
    rw [handled] at h
    cases h
    rfl
  | replies id reply _ _ _ delivered handled =>
    rw [handled] at h
    cases h
    simp only [deliver?] at delivered
    split at delivered <;> cases delivered
    rfl
  | startError _ _ _ handled =>
    rw [handled] at h
    cases h
    simp only [failStart]
    split <;> rfl
  | polls _ _ handled =>
    rw [handled] at h
    cases h

/-! ## Requests in their turn -/

theorem queue_of_polls (h : handle x r = .polls x') : x'.queue = x.queue := by
  cases handled x r with
  | ignored _ handled _ => rw [handled] at h; cases h
  | replies _ _ _ _ _ _ handled => rw [handled] at h; cases h
  | startError _ _ _ handled => rw [handled] at h; cases h
  | polls _ _ handled =>
    rw [handled] at h
    cases h
    simp only [markReady]
    split <;> rfl

theorem takes_poll (x : Exchange) (p : Poller) (method : Http.Method) :
    Takes method x (x.poll p).2 ((x.poll p).1.map (deliveryFor method)) := by
  cases hqueue : x.queue with
  | nil => exact .nothing (by simp [poll, pop?, hqueue, sleep]) (by simp [poll, pop?, hqueue])
  | cons q rest =>
    exact .first q (deliveryFor method q) (by simp [poll, pop?, hqueue])
      (by simp [poll, pop?, hqueue]) (delivers_deliveryFor_iff method q)

theorem serve_of_polls (h : handle x r = .polls x') (p : Poller) :
    serve x p r = ((x'.poll p).2, [], (x'.poll p).1.map (deliveryFor r.method)) := by
  simp only [serve, h]
  cases hqueue : x'.queue <;> simp [poll, pop?, hqueue]

/-- A request for the next invocation gets the first one of the queue in its turn. -/
theorem take_first {rest : List Queued} (asks : Route.ofPath? r.uri.path = some .next)
    (get : r.method = .get) (queued : x.queue = q :: rest) (p : Poller) (turn : Turn) :
    (take x p r turn).2 = some (deliveryFor r.method q) ∧ (take x p r turn).1.queue = rest := by
  cases turn with
  | comes =>
    have polls : handle x r = .polls x.markReady := by
      simp [handle, asks, Route.knows, get]
    have queue : x.markReady.queue = q :: rest := (queue_of_polls polls).trans queued
    simp [take, serve_of_polls polls, poll, pop?, queue]
  | wakes => simp [take, retry, poll, pop?, queued]

/-- An invocation that is taken out of the queue is the first one there, and it is handed out
    exactly if it can be. An answer for which nothing is taken hands out no invocation at all. -/
theorem taken_delivered_iff_deliverable (x : Exchange) (p : Poller) (r : Http.Request)
    (turn : Turn) :
    Takes r.method x (take x p r turn).1 (take x p r turn).2 := by
  cases turn with
  | wakes => cases takes_poll { x with bell := x.bell.look p } p r.method with
    | first q response taken answered delivered => exact .first q response taken answered delivered
    | nothing kept other => exact .nothing kept other
  | comes =>
    cases hhandle : handle x r with
    | answered response x' logged =>
      simp only [take, serve, hhandle]
      refine .nothing (queue_of_answered hhandle) ?_
      rintro _ ⟨⟩ q delivers
      exact status_of_answered hhandle delivers.status
    | polls x' =>
      simp only [take, serve_of_polls hhandle]
      have hqueue := queue_of_polls hhandle
      cases takes_poll x' p r.method with
      | first q response taken answered delivered =>
        exact .first q response (hqueue ▸ taken) answered delivered
      | nothing kept other => exact .nothing (kept.trans hqueue) other

/-- A request for the next invocation. -/
def asking (method : Http.Method) : Http.Request :=
  ⟨method, ⟨none, "/2018-06-01/runtime/invocation/next", none⟩, .empty, ⟨[], none⟩⟩

/-- An invocation of a function with a given name, in the queue. -/
def named (arn : String) : Queued :=
  ⟨⟨"a", arn, "", "", [0x7B, 0x7D]⟩, ⟨0⟩⟩

/-- An exchange in which nothing happened but that an invocation was queued. -/
def holding (q : Queued) : Exchange :=
  (fresh.perform (.enqueue q 0)).1

/-- An invocation is lost if the name of the function has a line feed, or if it is asked for by a
    method that drops the body. -/
theorem lost_by_taking :
    (∃ response, (holding (named "a\nb")).queue = [named "a\nb"] ∧
      (take (holding (named "a\nb")) 0 (asking .get) .comes).1.queue = [] ∧
      (take (holding (named "a\nb")) 0 (asking .get) .comes).2 = some response ∧
      ¬ Delivers response (named "a\nb")) ∧
    ∃ response, (holding (named "a")).queue = [named "a"] ∧
      (take (holding (named "a")) 0 (asking .head) .comes).1.queue = [] ∧
      (take (holding (named "a")) 0 (asking .head) .comes).2 = some response ∧
      ¬ Delivers response (named "a") := by
  refine ⟨⟨_, by decide +kernel, by decide +kernel, rfl, ?_⟩,
    ⟨_, by decide +kernel, by decide +kernel, rfl, ?_⟩⟩
  · intro delivers
    exact absurd delivers.status (by decide +kernel)
  · intro delivers
    exact absurd delivers.body (by decide +kernel)

end FunctionHost.Exchange.Api
