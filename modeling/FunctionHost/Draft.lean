-- SUMMARY: The answer that a sandbox prepares while it serves an invocation.
import FunctionHost.Http.Status
import FunctionHost.Text.Utf8

/-! # Drafts

While a sandbox serves an invocation it drafts the answer: it may set a status and append bytes.
Nothing of it reaches the client before the outcome is known. -/

namespace FunctionHost

/-- The answer that a sandbox has prepared so far. -/
structure Draft where
  status : Option Http.Status
  body : Bytes
  deriving DecidableEq, Inhabited

namespace Draft

/-- Nothing prepared. -/
def blank : Draft :=
  ⟨none, []⟩

/-- What a sandbox can do to a draft. -/
inductive Edit where
  | status (status : Http.Status)
  | write (content : Bytes)
  deriving DecidableEq

/-- A draft with its status set; the last one set counts. -/
def setStatus (d : Draft) (status : Http.Status) : Draft :=
  { d with status := some status }

/-- A draft with bytes appended to its body. -/
def write (d : Draft) (content : Bytes) : Draft :=
  { d with body := d.body ++ content }

/-- A draft after one edit. -/
def apply (d : Draft) : Edit → Draft
  | .status status => d.setStatus status
  | .write content => d.write content

/-- A draft after several edits. -/
def applyAll (d : Draft) (edits : List Edit) : Draft :=
  edits.foldl apply d

end Draft

end FunctionHost
