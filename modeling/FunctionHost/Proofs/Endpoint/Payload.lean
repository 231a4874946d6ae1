-- SUMMARY: The payload that the sandbox gets is the body of the request, or a document that shows the request.
import FunctionHost.Proofs.Endpoint.Routing
import FunctionHost.Proofs.UrlEvent.Document

/-! # Payloads

What the sandbox gets of a request is decided when the request arrives and does not change while it
waits. On the one path for payloads it is the body of the request, byte for byte. On every other
path it is the text of a document that shows the request. -/

namespace FunctionHost.Endpoint

open Http.Uri (IsRooted)

variable {e : Endpoint} {r : Http.Request} {task : Nat} {call : Call}

end FunctionHost.Endpoint
