-- SUMMARY: Requests played against an endpoint with a scripted sandbox.
import FunctionHost.Endpoint.Basic
import FunctionHost.Rehearsal.Script

/-! # Rehearsing an endpoint

Requests that are sent together are served in the order of their arrival, each as far as it can
go. If the sandbox does not delay them, each is therefore done before the next one invokes it, and
otherwise all invoke it before the first one is done. Time passes on the virtual clock only when
nobody can go on: during the start, during the delay of the invocations, and during the pause
after a timeout. -/

namespace FunctionHost.Rehearsal

/-- A request after it was played: its answers, the time that passed on the virtual clock, and the
    endpoint afterwards. -/
structure Scene where
  endpoint : Endpoint
  answers : List Http.Response
  waited : Nat

open Endpoint in
/-- The events of one invocation, from the sandbox being done with it to the last line. -/
def closingEvents (script : InvokeScript) (payload : Bytes) (task : Nat) : List Event :=
  [ .returns task script.outcome (script.draft payload) (.ofMillis script.block),
    .writes task, .writes task ]

open Endpoint in
/-- The events of equal requests that are past the gate. Ids are numbered in the order in which the
    first lines are written; `used` is the number of those already in use. -/
def servingEvents (script : InvokeScript) (ids : Nat → String) (used : Nat) (payload : Bytes)
    (tasks : List Nat) : List Event :=
  let invoking := tasks.zipIdx.map fun (task, i) => Event.invokes task (ids (used + i))
  let closing := tasks.map (closingEvents script payload)
  if script.delay = 0 then (invoking.zip closing).flatMap fun (event, events) => event :: events
  else invoking ++ closing.flatten

/-- A number of equal requests come to an endpoint: the endpoint afterwards, the answers given at
    once, and the tasks of the others. -/
def acceptAll (e : Endpoint) (request : Http.Request) :
    Nat → Endpoint × List Http.Response × List Nat
  | 0 => (e, [], [])
  | copies + 1 =>
    let (accepted, answer) := e.accept request
    let (last, answers, tasks) := acceptAll accepted request copies
    match answer with
    | some response => (last, response :: answers, tasks)
    | none => (last, answers, e.tasks.length :: tasks)

/-- Plays a number of equal requests that are sent together. -/
def play (start : StartScript) (script : InvokeScript) (ids : Nat → String) (e : Endpoint)
    (request : Http.Request) (copies : Nat) : Scene :=
  let (arrived, answers, tasks) := acceptAll e request copies
  match tasks.head?.bind fun task => arrived.tasks[task]? with
  | none => ⟨arrived, answers, 0⟩
  | some first =>
    let starting := arrived.gate.runner.isSome
    let started := arrived.step (.startReturns start.failure (.ofMillis start.block))
    let served := started.run
      (servingEvents script ids started.invocations.length first.call.payload tasks)
    let done := served.run (tasks.map .resumes)
    { endpoint := done
      answers := answers ++ tasks.filterMap done.answer?
      waited := (if starting then start.delay else 0) + script.delay
        + (Disposition.of script.outcome).pause }

end FunctionHost.Rehearsal
