-- SUMMARY: What each request to the interface for the function does to an exchange.
import FunctionHost.Exchange.Api

/-! # Requests to the interface

A request does one of four things: nothing, handing over a reply that somebody waits for, telling
why the function could not start, or asking for an invocation. The first is the only one that is
not answered with 202 at once, apart from the last, which is not answered at once. -/

namespace FunctionHost.Exchange.Api

/-- The answer that a request gets at once, if it gets one. -/
def answer? (x : Exchange) (r : Http.Request) : Option Http.Response :=
  match handle x r with
  | .answered response _ _ => some response
  | .polls _ => none

/-- The exchange after a request was handled. -/
def after (x : Exchange) (r : Http.Request) : Exchange :=
  match handle x r with
  | .answered _ x _ => x
  | .polls x => x

/-- A request was taken in. -/
def Accepts (x : Exchange) (r : Http.Request) : Prop :=
  (answer? x r).map (·.status) = some .accepted

instance (x : Exchange) (r : Http.Request) : Decidable (Accepts x r) :=
  inferInstanceAs (Decidable (_ = _))

/-- The id of the invocation that a request replies to. -/
def repliedId? (r : Http.Request) : Option String :=
  match Route.ofPath? r.uri.path with
  | some (.response id) => if r.method = .post then id else none
  | some (.error id) => if r.method = .post then id else none
  | _ => none

/-- A request asks for an invocation. -/
def IsPoll (r : Http.Request) : Prop :=
  Route.ofPath? r.uri.path = some .next ∧ (r.method = .get ∨ r.method = .head)

instance (r : Http.Request) : Decidable (IsPoll r) :=
  inferInstanceAs (Decidable (_ ∧ _))

/-- What a request does to an exchange. -/
inductive Handled (x : Exchange) (r : Http.Request) : Prop where
  | ignored (response : Http.Response) (handled : handle x r = .answered response x [])
      (rejected : response.status ≠ .accepted)
  | replies (id : String) (reply : Reply) (x' : Exchange) (replied : repliedId? r = some id)
      (posted : reply = .response r.body.bytes ∨ reply = .error r.body.bytes)
      (delivered : x.deliver? id reply = some x')
      (handled : handle x r = .answered (.bare .accepted) x' [])
  | startError (logged : List Log.Entry) (other : repliedId? r = none) (posted : r.method = .post)
      (handled : handle x r = .answered (.bare .accepted) (x.failStart r.body.bytes) logged)
  | polls (other : repliedId? r = none) (poll : IsPoll r) (handled : handle x r = .polls x.markReady)

private theorem text_rejected {status : Http.Status} {content : String}
    (h : status ≠ .accepted) : (Http.Response.text status content).status ≠ .accepted := h

private theorem body?_cases (b : Http.Body) :
    body? b = .ok b.bytes ∨ ∃ response, body? b = .error response ∧ response.status ≠ .accepted := by
  simp only [body?]
  split
  · exact .inr ⟨_, rfl, text_rejected (by decide)⟩
  · split
    · exact .inr ⟨_, rfl, text_rejected (by decide)⟩
    · exact .inl rfl

private theorem handled_postReply {x : Exchange} {r : Http.Request} (id : Option String)
    {reply : Bytes → Reply} (handled : handle x r = postReply x id r.body reply)
    (replied : repliedId? r = id) (shape : reply = .response ∨ reply = .error) : Handled x r := by
  cases id with
  | none => exact .ignored malformedId handled (by decide)
  | some id =>
    rcases body?_cases r.body with hbody | ⟨response, hbody, hstatus⟩
    · cases hdeliver : x.deliver? id (reply r.body.bytes) with
      | none =>
        exact .ignored (unknownId id) (by simpa [postReply, hbody, hdeliver] using handled)
          (text_rejected (by decide))
      | some x' =>
        refine .replies id (reply r.body.bytes) x' replied ?_ hdeliver
          (by simpa [postReply, hbody, hdeliver] using handled)
        rcases shape with rfl | rfl
        · exact .inl rfl
        · exact .inr rfl
    · exact .ignored response (by simpa [postReply, hbody] using handled) hstatus

theorem handled (x : Exchange) (r : Http.Request) : Handled x r := by
  cases hroute : Route.ofPath? r.uri.path with
  | none => exact .ignored (.bare .notFound) (by simp [handle, hroute]) (by decide)
  | some route =>
    cases hknows : route.knows r.method with
    | false =>
      exact .ignored (.onlyAllowing route.methods) (by simp [handle, hroute, hknows])
        (show Http.Status.methodNotAllowed ≠ .accepted by decide)
    | true =>
      cases route with
      | next =>
        refine .polls (by simp [repliedId?, hroute]) ⟨hroute, ?_⟩ (by simp [handle, hroute, hknows])
        simpa [Route.knows] using hknows
      | response id =>
        have hpost : r.method = .post := by simpa [Route.knows] using hknows
        exact handled_postReply id (by simp [handle, hroute, hknows])
          (by simp [repliedId?, hroute, hpost]) (.inl rfl)
      | error id =>
        have hpost : r.method = .post := by simpa [Route.knows] using hknows
        exact handled_postReply id (by simp [handle, hroute, hknows])
          (by simp [repliedId?, hroute, hpost]) (.inr rfl)
      | startError =>
        have hpost : r.method = .post := by simpa [Route.knows] using hknows
        rcases body?_cases r.body with hbody | ⟨response, hbody, hstatus⟩
        · exact .startError _ (by simp [repliedId?, hroute]) hpost
            (by simp [handle, hroute, hknows, postStartError, hbody]; rfl)
        · exact .ignored response (by simp [handle, hroute, hknows, postStartError, hbody]) hstatus

/-- The answer to a body that is too long. -/
def tooLong : Http.Response :=
  .text .payloadTooLarge "Failed to buffer the request body: length limit exceeded"

theorem body?_of_long {b : Http.Body} (long : maxBody < b.bytes.length) :
    body? b = .error tooLong := by
  rw [body?, if_pos long]
  rfl

theorem body?_of_whole {b : Http.Body} (short : b.bytes.length ≤ maxBody)
    (whole : b.failure = none) : body? b = .ok b.bytes := by
  rw [body?, if_neg (Nat.not_lt.2 short), whole]

/-- A request that replies to an invocation is handled as a reply of one kind or the other. -/
theorem handle_of_repliedId? {x : Exchange} {r : Http.Request} {id : String}
    (replied : repliedId? r = some id) :
    handle x r = postReply x id r.body .response ∨ handle x r = postReply x id r.body .error := by
  unfold repliedId? at replied
  unfold handle
  split at replied
  · next hroute =>
    split at replied
    · next hpost => exact .inl (by simp [hroute, Route.knows, hpost, replied])
    · cases replied
  · next hroute =>
    split at replied
    · next hpost => exact .inr (by simp [hroute, Route.knows, hpost, replied])
    · cases replied
  · cases replied

/-- A reply whose body is too long is turned down, whether somebody waits for it or not. -/
theorem handle_of_long {x : Exchange} {r : Http.Request} {id : String}
    (replied : repliedId? r = some id) (long : maxBody < r.body.bytes.length) :
    handle x r = .answered tooLong x [] := by
  rcases handle_of_repliedId? (x := x) replied with handled | handled <;>
    simp only [handled, postReply, body?_of_long long]

/-- How a reply is answered that arrives as a whole and is not too long. -/
theorem answer?_of_whole {x : Exchange} {r : Http.Request} {id : String}
    (replied : repliedId? r = some id) (short : r.body.bytes.length ≤ maxBody)
    (whole : r.body.failure = none) :
    answer? x r = if (x.waiting.get? id).isSome then some (.bare .accepted)
      else some (unknownId id) := by
  have posted (reply : Bytes → Reply) (handled : handle x r = postReply x id r.body reply) :
      answer? x r = if (x.waiting.get? id).isSome then some (.bare .accepted)
        else some (unknownId id) := by
    rw [answer?, handled, postReply]
    cases waits : x.waiting.get? id <;> simp [body?_of_whole short whole, deliver?, waits]
  rcases handle_of_repliedId? (x := x) replied with handled | handled
  · exact posted .response handled
  · exact posted .error handled

/-- Only a reply that somebody waits for is taken in. -/
theorem waits_of_accepts {x : Exchange} {r : Http.Request} {id : String}
    (replied : repliedId? r = some id) (accepts : Accepts x r) :
    ∃ ticket, x.waiting.get? id = some ticket := by
  cases handled x r with
  | ignored response handled rejected =>
    rw [Accepts, answer?, handled] at accepts
    exact absurd (Option.some.inj accepts) rejected
  | replies other reply x' replied' _ delivered _ =>
    obtain rfl : other = id := Option.some.inj (replied'.symm.trans replied)
    cases waits : x.waiting.get? other with
    | none => simp [deliver?, waits] at delivered
    | some ticket => exact ⟨ticket, rfl⟩
  | startError _ other | polls other => cases other.symm.trans replied

end FunctionHost.Exchange.Api
