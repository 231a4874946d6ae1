-- SUMMARY: Header fields by name, repeated ones joined by commas.
import FunctionHost.Http.Headers
import FunctionHost.UrlEvent.Query

/-! # Header fields of an event

An event shows the header fields of its request by name, the values of a repeated one joined by
commas. The host is left out, because the event shows it elsewhere. -/

namespace FunctionHost.UrlEvent

/-- The header field that names the host. -/
def hostName : String := "host"

/-- The header fields of a request by name, without the host. -/
def joinedHeaders (headers : Http.Headers) : Dictionary String :=
  joined ((headers.fields.filter fun field => field.1 ≠ hostName).map fun (name, value) =>
    (name, Text.Utf8.lossy value))

end FunctionHost.UrlEvent
