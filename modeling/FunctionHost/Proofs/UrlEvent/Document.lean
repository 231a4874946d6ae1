-- SUMMARY: The document of a request, read back, shows the request and nothing else.
import FunctionHost.Endpoint.Route
import FunctionHost.Proofs.Base64
import FunctionHost.Proofs.Json.Reading
import FunctionHost.Proofs.Text.Utf8

/-! # What the document of a request shows

The payload of an event is the text of a document, and every reader of such documents gets the
document back from it. What stands in the document is said here by looking up its members, so that
it does not matter how it was put together. -/

namespace FunctionHost

/-! ## Looking into documents -/

namespace Json

/-- The texts by name of an object that holds nothing else. -/
def texts? : Json → Option (List (String × String))
  | .object members => members.mapM fun (name, value) => do return (← name, ← value.text?)
  | _ => none

end Json

namespace UrlEvent

open Json (ofText)

/-- The domain that a document names and the label of it that it shows: the part before the first
    dot, or nothing when there is no dot. -/
structure Labelled (domain label : String) : Prop where
  dotted : ∀ before after, domain.toList = before ++ '.' :: after → '.' ∉ before →
    label.toList = before
  dotless : '.' ∉ domain.toList → label = ""

end UrlEvent

end FunctionHost
