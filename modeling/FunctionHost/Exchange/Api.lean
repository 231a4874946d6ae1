-- SUMMARY: The HTTP interface through which the function fetches invocations and replies to them.
import FunctionHost.Exchange.Basic
import FunctionHost.Http.Message
import FunctionHost.Log
import FunctionHost.Text.Percent

/-! # The interface for the function

The function talks to an exchange over HTTP. It asks for the next invocation, posts a response or
an error under the id of an invocation, or posts why it could not start. Asking may take long,
and everything else is answered at once. -/

namespace FunctionHost.Exchange.Api

/-! ## Routes -/

/-- Where a path of the interface leads. The id of an invocation is missing when it is not
    UTF-8. -/
inductive Route where
  | next
  | response (id : Option String)
  | error (id : Option String)
  | startError
  deriving Repr, DecidableEq

/-- The parts of a path between its slashes. -/
def segments (path : List Char) : List (List Char) :=
  path.splitOn '/'

/-- The id that a part of a path stands for. -/
def idOf (segment : List Char) : Option String :=
  Text.Utf8.text? (Text.Percent.decode (Text.Utf8.encode segment))

/-- Where a path leads, if it leads anywhere. The part for an id may be empty, which the router takes
    for the empty id. -/
def Route.ofPath? (path : String) : Option Route :=
  let segment (s : String) : List Char := s.toList
  match segments path.toList with
  | [[], version, runtime, kind, rest] =>
    if version = segment "2018-06-01" && runtime = segment "runtime" then
      if kind = segment "invocation" && rest = segment "next" then some .next
      else if kind = segment "init" && rest = segment "error" then some .startError
      else none
    else none
  | [[], version, runtime, kind, id, verb] =>
    if version = segment "2018-06-01" && runtime = segment "runtime"
        && kind = segment "invocation" then
      if verb = segment "response" then some (.response (idOf id))
      else if verb = segment "error" then some (.error (idOf id))
      else none
    else none
  | _ => none

-- An empty id is routed like any other.
example : Route.ofPath? "/2018-06-01/runtime/invocation//response" = some (.response (some "")) := by
  decide +kernel

/-- The methods that a route knows, as they are listed to those who use another one. -/
def Route.methods : Route → String
  | .next => "GET,HEAD"
  | _ => "POST"

/-- Whether a route knows a method. -/
def Route.knows (route : Route) (method : Http.Method) : Bool :=
  match route with
  | .next => method = .get || method = .head
  | _ => method = .post

/-! ## Answers -/

/-- The header fields of the answer that hands out an invocation, in the order in which they are
    made. There is none for a trace that is empty. -/
def deliveryFields (q : Queued) : List (String × String) :=
  [ ("Lambda-Runtime-Aws-Request-Id", q.invocation.id),
    ("Lambda-Runtime-Deadline-Ms", toString q.deadline.millis),
    ("Lambda-Runtime-Invoked-Function-Arn", q.invocation.arn) ]
  ++ (if q.invocation.trace.isEmpty then []
      else [("Lambda-Runtime-Trace-Id", q.invocation.trace)])

/-- The answer that hands out an invocation. If one of its header fields cannot be made, the answer
    names the first such field instead. -/
def delivery (q : Queued) : Http.Response :=
  match (deliveryFields q).find? fun (_, value) => !Http.isHeaderText value with
  | some (name, _) => .text .internalServerError ("Failed to create header " ++ name)
  | none =>
    { status := .ok
      headers := (deliveryFields q).map (fun (name, value) => (name.toLower, value))
        ++ [("content-type", "application/json")]
      body := q.invocation.payload }

/-- The answer to a poll with a given method. -/
def deliveryFor (method : Http.Method) (q : Queued) : Http.Response :=
  if method = .head then (delivery q).withoutBody else delivery q

/-- The longest body that may be posted, in bytes. -/
def maxBody : Nat := 2 * 1024 * 1024

/-- The body of a request, or the answer to one whose body is too long or broke off. -/
def body? (b : Http.Body) : Except Http.Response Bytes :=
  let refuse (status : Http.Status) (reason : String) : Except Http.Response Bytes :=
    .error (.text status ("Failed to buffer the request body: " ++ reason))
  if maxBody < b.bytes.length then refuse .payloadTooLarge "length limit exceeded"
  else
    match b.failure with
    | some reason => refuse .badRequest reason
    | none => .ok b.bytes

/-- The answer to a path whose id is not UTF-8. -/
def malformedId : Http.Response :=
  .text .badRequest "Invalid URL: Invalid UTF-8 in \x60request_id\x60"

/-- The answer to a reply that nobody waits for. -/
def unknownId (id : String) : Http.Response :=
  .text .notFound ("Unknown request ID: " ++ id)

/-! ## Requests -/

/-- What a request comes to: an answer at once, with the exchange afterwards and what is logged, or
    a poll that is answered when there is an invocation. -/
inductive Step where
  | answered (response : Http.Response) (x : Exchange) (logged : List Log.Entry)
  | polls (x : Exchange)
  deriving DecidableEq

/-- A posted reply. -/
def postReply (x : Exchange) (id : Option String) (body : Http.Body) (reply : Bytes → Reply) :
    Step :=
  match id with
  | none => .answered malformedId x []
  | some id =>
    match body? body with
    | .error refusal => .answered refusal x []
    | .ok bytes =>
      match x.deliver? id (reply bytes) with
      | some x => .answered (.bare .accepted) x []
      | none => .answered (unknownId id) x []

/-- A posted explanation of why the function could not start. -/
def postStartError (x : Exchange) (body : Http.Body) : Step :=
  match body? body with
  | .error refusal => .answered refusal x []
  | .ok document =>
    let logged :=
      if x.phase = .pending then Log.warning "Runtime reported an init error"
      else Log.warning "Ignoring init error reported after init settled"
    .answered (.bare .accepted) (x.failStart document) [logged]

/-- A request to the interface. -/
def handle (x : Exchange) (r : Http.Request) : Step :=
  match Route.ofPath? r.uri.path with
  | none => .answered (.bare .notFound) x []
  | some route =>
    if !route.knows r.method then .answered (.onlyAllowing route.methods) x []
    else
      match route with
      | .next => .polls x.markReady
      | .response id => postReply x id r.body .response
      | .error id => postReply x id r.body .error
      | .startError => postStartError x r.body

/-- A request carried out as far as it goes by itself: the exchange afterwards, what is logged, and
    the answer, unless it has to wait for an invocation. `p` is who waits. -/
def serve (x : Exchange) (p : Poller) (r : Http.Request) :
    Exchange × List Log.Entry × Option Http.Response :=
  match handle x r with
  | .answered response x logged => (x, logged, some response)
  | .polls x =>
    match x.poll p with
    | (some q, x) => (x, [], some (deliveryFor r.method q))
    | (none, x) => (x, [], none)

end FunctionHost.Exchange.Api
