-- SUMMARY: Scripts for a sandbox that does what it is told, on a clock that does not run by itself.
import FunctionHost.Draft
import FunctionHost.Outcome
import FunctionHost.Time.Span

/-! # Scripted sandboxes

A rehearsal plays requests against a sandbox whose behaviour is written down beforehand: how its
start ends, and what it does when it is invoked. Delays pass on a virtual clock, so that they take
no real time, and other work is held up by blocking, which does. -/

namespace FunctionHost.Rehearsal

/-- How the start of a sandbox goes: how long it waits on the virtual clock, for how long it
    blocks, and with which message it fails, if it does. -/
structure StartScript where
  delay : Nat
  block : Nat
  failure : Option String
  deriving Repr, DecidableEq, Inhabited

/-- One thing that a sandbox does to the draft of an answer. -/
inductive Move where
  | status (status : Http.Status)
  | write (content : Bytes)
  | echo
  deriving DecidableEq

/-- What a sandbox does when it is invoked: it waits, blocks, edits the draft, and returns. -/
structure InvokeScript where
  delay : Nat
  block : Nat
  moves : List Move
  outcome : Outcome
  deriving DecidableEq

/-- What a move does to a draft; an echo writes the payload. -/
def Move.edit (payload : Bytes) : Move → Draft.Edit
  | .status code => .status code
  | .write content => .write content
  | .echo => .write payload

/-- The draft that a script leaves behind. -/
def InvokeScript.draft (script : InvokeScript) (payload : Bytes) : Draft :=
  Draft.blank.applyAll (script.moves.map (Move.edit payload))

end FunctionHost.Rehearsal
