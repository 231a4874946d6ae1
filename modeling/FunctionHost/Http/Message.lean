-- SUMMARY: Requests and responses of HTTP.
import FunctionHost.Http.Headers
import FunctionHost.Http.Status
import FunctionHost.Http.Uri

/-! # Requests and responses

The body of a request arrives whole, or breaks off with a description of what happened. A
response carries the header fields that the program itself decides. -/

namespace FunctionHost.Http

/-- The body of a request: all of it, or as much of it as came before the connection failed. -/
structure Body where
  bytes : Bytes
  failure : Option String
  deriving Repr, DecidableEq, Inhabited

/-- A request. -/
structure Request where
  method : Method
  uri : Uri
  headers : Headers
  body : Body
  deriving Repr, DecidableEq

/-- Why a request cannot be formed. -/
inductive RequestProblem where
  | method
  | uri
  | header (problem : HeaderProblem)
  deriving Repr, DecidableEq

/-- The request of raw parts. The method is looked at first, then the target, then each header
    field in turn. -/
def Request.ofParts? (method : Bytes) (uri : String) (headers : List (Bytes × Bytes))
    (body : Body) : Except RequestProblem Request :=
  match Method.ofBytes? method with
  | none => .error .method
  | some method =>
    match Uri.parse? uri with
    | none => .error .uri
    | some uri =>
      match Headers.ofPairs? headers with
      | .error problem => .error (.header problem)
      | .ok headers => .ok ⟨method, uri, headers, body⟩

/-- A response. The names of its header fields are in lower case. -/
structure Response where
  status : Status
  headers : List (String × String)
  body : Bytes
  deriving DecidableEq, Inhabited

namespace Response

/-- A status and nothing else. -/
def bare (status : Status) : Response :=
  ⟨status, [], []⟩

/-- A text. -/
def text (status : Status) (content : String) : Response :=
  ⟨status, [("content-type", "text/plain; charset=utf-8")], Text.Utf8.bytes content⟩

/-- Bytes without a type of their own. -/
def binary (status : Status) (content : Bytes) : Response :=
  ⟨status, [("content-type", "application/octet-stream")], content⟩

/-- The refusal of a method on a path that knows others. -/
def onlyAllowing (methods : String) : Response :=
  ⟨.methodNotAllowed, [("allow", methods)], []⟩

/-- A response without its body. -/
def withoutBody (r : Response) : Response :=
  { r with body := [] }

/-- The value of a header field. -/
def header? (r : Response) (name : String) : Option String :=
  (r.headers.find? fun field => field.1 == name).map Prod.snd

end Response

end FunctionHost.Http
