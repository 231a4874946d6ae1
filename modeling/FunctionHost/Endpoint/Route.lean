-- SUMMARY: Which requests an endpoint turns into invocations, and how it answers the others.
import FunctionHost.Http.Message
import FunctionHost.Log
import FunctionHost.Text.Percent
import FunctionHost.UrlEvent.Basic

/-! # Routing at the endpoint

One path is the platform's own: a body posted to it is the payload itself. Every other path
belongs to the address of the function, and a request posted there becomes an event. Paths are
compared as they were sent, and only the rest after the first slash is percent-decoded. -/

namespace FunctionHost.Endpoint

/-- The path on which bodies are taken as payloads. -/
def invocationsPath : String :=
  "/2015-03-31/functions/function/invocations"

/-- Where a path leads. -/
inductive Route where
  | invocations
  | address (remainder : String)
  | malformed
  | nowhere
  deriving Repr, DecidableEq

/-- Where the rest of a path after its first slash leads. -/
def Route.ofRemainder (remainder : List Char) : Route :=
  match Text.Utf8.text? (Text.Percent.decode (Text.Utf8.encode remainder)) with
  | some text => .address text
  | none => .malformed

/-- Where a path leads. A target without a path, such as a bare authority, leads nowhere. -/
def Route.ofPath (path : String) : Route :=
  if path = invocationsPath then .invocations
  else
    match path.toList with
    | '/' :: remainder => .ofRemainder remainder
    | _ => .nowhere

/-- What an invocation is made of: the header fields of a request, and the payload. -/
structure Call where
  headers : Http.Headers
  payload : Bytes
  deriving Repr, DecidableEq

/-- What becomes of a request: it is answered at once, or it becomes an invocation. -/
inductive Reception where
  | answered (response : Http.Response) (logged : List Log.Entry)
  | called (call : Call)
  deriving DecidableEq

/-- The payload of a request that leads to the address of the function. -/
def eventPayload (r : Http.Request) (remainder : String) : Bytes :=
  (UrlEvent.ofParts r.method remainder r.uri r.headers r.body.bytes).payload

/-- What becomes of a request whose body is needed for its payload. -/
def withBody (r : Http.Request) (payload : Bytes) : Reception :=
  match r.body.failure with
  | some _ => .answered (.bare .internalServerError) [Log.error "failed to read invoke body"]
  | none => .called ⟨r.headers, payload⟩

/-- What becomes of a request. -/
def receive (r : Http.Request) : Reception :=
  let route := Route.ofPath r.uri.path
  if route = .nowhere then .answered (.bare .notFound) []
  else if r.method ≠ .post then
    .answered (.onlyAllowing "POST") [Log.warning "Unhandled request"]
  else
    match route with
    | .invocations => withBody r r.body.bytes
    | .address remainder => withBody r (eventPayload r remainder)
    | .malformed =>
      .answered (.text .badRequest "Invalid URL: Invalid UTF-8 in \x60path\x60") []
    | .nowhere => .answered (.bare .notFound) []

end FunctionHost.Endpoint
