-- SUMMARY: What is handed to a sandbox for one invocation.
import FunctionHost.Http.Headers
import FunctionHost.Settings.Basic

/-! # Invocations

An invocation has an id of its own, the name under which the function is invoked, what the
caller sent along for tracing, and a payload. -/

namespace FunctionHost

/-- One invocation of the function. -/
structure Invocation where
  id : String
  arn : String
  trace : String
  segment : String
  payload : Bytes
  deriving Repr, DecidableEq

namespace Invocation

/-- The header field with the trace that a request belongs to. -/
def traceName : String := "x-amzn-trace-id"

/-- The header field with the segment of that trace. -/
def segmentName : String := "x-amzn-segment-id"

/-- The invocation that a request with some header fields asks for. -/
def ofRequest (settings : Settings) (id : String) (headers : Http.Headers) (payload : Bytes) :
    Invocation where
  id
  arn := settings.arn
  trace := headers.firstText traceName
  segment := headers.firstText segmentName
  payload

end Invocation

end FunctionHost
