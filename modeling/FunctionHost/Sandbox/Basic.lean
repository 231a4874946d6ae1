-- SUMMARY: The sandbox as a state machine: it is started, invoked one call at a time, and talks to the function.
import FunctionHost.Bootstrap.Problem
import FunctionHost.Draft
import FunctionHost.Exchange.Api
import FunctionHost.Exchange.Traffic
import FunctionHost.Outcome
import FunctionHost.Sandbox.Document

/-! # Sandboxes

A sandbox stands between the calls that invoke a function and the function itself, which talks to
the interface of an exchange. One call at a time holds the reservation: it finds out whether the
start failed, brings its invocation to the exchange, and waits for the reply until its time is
over. A start waits until the function asks for its first invocation, or gives up.

Every event is one uninterrupted step, and anything may happen between two of them. An event that
does not apply to where somebody stands changes nothing. -/

namespace FunctionHost

namespace Sandbox

/-- Where a call stands. It holds the reservation from its arrival until it returned or was
    dropped. After its time is over it is first forgotten by the exchange, and then its invocation
    is withdrawn. -/
inductive CallStage where
  | reserved
  | admitted
  | brought (ticket : Ticket)
  | expired
  | forgotten
  | returned (outcome : Outcome) (draft : Draft)
  | dropped
  deriving DecidableEq

/-- A call and the invocation it was made for. -/
structure Call where
  invocation : Invocation
  stage : CallStage
  deriving DecidableEq

/-- Where a start stands. One that took too long first notices it, and then gives up. -/
inductive StartStage where
  | waiting
  | overdue
  | returned (failure : Option String)
  deriving Repr, DecidableEq

/-- How long a start may take, in milliseconds. -/
def startLimit : Nat := 10000

/-- What is said of a start that took too long. -/
def overdueMessage : String :=
  "Runtime did not poll for invocations within " ++ toString (startLimit / 1000) ++ " seconds"

/-- The document for a start that took too long. -/
def overdueDocument : Bytes :=
  errorDocument "Sandbox.Timedout" overdueMessage

/-- How long an invocation may take before a start tells, in milliseconds. -/
def initialTimeout : UInt64 := 300000

end Sandbox

open Sandbox

/-- A sandbox: the traffic at its exchange, which call holds the reservation, how long an
    invocation may take in milliseconds, its calls and starts in order, and what was logged. -/
structure Sandbox where
  traffic : Traffic
  holder : Option Nat
  timeout : UInt64
  calls : List Call
  starts : List StartStage
  log : List Log.Entry
  deriving DecidableEq

namespace Sandbox

/-- What can happen in a sandbox. Calls, starts, pollers and exits are numbered in order of
    coming. -/
inductive Event where
  /-- A call arrives, and takes the reservation if it is free. -/
  | arrives (invocation : Invocation)
  /-- A call finds out whether the start failed. -/
  | checks (call : Nat)
  /-- A call registers for the reply to its invocation. -/
  | brings (call : Nat) (now : Time.Instant)
  /-- A call puts its invocation into the queue. -/
  | queues (call : Nat)
  /-- A call rings for those who fetch. -/
  | rings (call : Nat)
  /-- A call takes note of what became of its invocation. -/
  | hears (call : Nat)
  /-- The time of a call is over, and it stops listening. -/
  | expires (call : Nat)
  /-- A call whose time is over has the exchange forget about it. -/
  | forgets (call : Nat)
  /-- A call whose time is over takes its invocation out of the queue. -/
  | withdraws (call : Nat)
  /-- Whoever made a call goes away. -/
  | drops (call : Nat)
  /-- The function sends a request to the interface. -/
  | requests (request : Http.Request)
  /-- A poll looks at the queue. -/
  | looks (poller : Poller)
  /-- A poll goes to sleep at the bell. -/
  | sleeps (poller : Poller)
  /-- Whoever polls goes away. -/
  | leaves (poller : Poller)
  /-- A start begins; its bootstrap was launched, or need not be, unless there is a refusal. -/
  | begins (timeout : UInt64) (refusal : Option Bootstrap.LaunchProblem)
  /-- A start takes note of how the function was started. -/
  | settles (start : Nat)
  /-- The time of a start is over. -/
  | lapses (start : Nat)
  /-- A start whose time is over gives up. -/
  | yields (start : Nat)
  /-- The process of the function ended, or its end could not be awaited. -/
  | exits (program reason : String)
  /-- The next step of the report of an exit is taken. -/
  | reports (exit : Nat)
  deriving DecidableEq

/-- A sandbox that was not started yet. -/
def fresh : Sandbox :=
  ⟨.fresh, none, initialTimeout, [], [], []⟩

instance : Inhabited Sandbox := ⟨fresh⟩

/-- The exchange of a sandbox. -/
def exchange (s : Sandbox) : Exchange :=
  s.traffic.exchange

/-- A sandbox with another state of its exchange. -/
def withExchange (s : Sandbox) (exchange : Exchange) : Sandbox :=
  { s with traffic := { s.traffic with exchange } }

/-- Something happens at the exchange. -/
def passing (s : Sandbox) (event : Traffic.Event) : Sandbox :=
  { s with traffic := s.traffic.step event }

/-- A sandbox with more entries in its log. -/
def logging (s : Sandbox) (entries : List Log.Entry) : Sandbox :=
  { s with log := s.log ++ entries }

/-! ## Calls -/

/-- Where a call stands. -/
def callStage? (s : Sandbox) (call : Nat) : Option CallStage :=
  s.calls[call]?.map Call.stage

/-- A call moves on. -/
def moveCall (s : Sandbox) (call : Nat) (stage : CallStage) : Sandbox :=
  { s with calls := s.calls.modify call fun c => { c with stage } }

/-- A call that holds the reservation gives it back and ends in some way. -/
def release (s : Sandbox) (call : Nat) (stage : CallStage) : Sandbox :=
  { s.moveCall call stage with holder := none }

/-- A call arrives, and takes the reservation if it is free. -/
def arrive (s : Sandbox) (invocation : Invocation) : Sandbox :=
  match s.holder with
  | some _ =>
    let stage := CallStage.returned (.failed .alreadyReserved) .blank
    { s with calls := s.calls ++ [⟨invocation, stage⟩] }
  | none =>
    { s with calls := s.calls ++ [⟨invocation, .reserved⟩], holder := some s.calls.length }

/-- A draft with nothing but the document for an invocation that failed with the function. -/
def exitDraft (id reason : String) : Draft :=
  Draft.blank.write (exitDocument id reason)

/-- A call finds out whether the start failed. -/
def check (s : Sandbox) (call : Nat) : Sandbox :=
  if s.exchange.phase = .failed then
    let draft := Draft.blank.write (s.exchange.startError.getD [])
    s.release call (.returned (.failed .initDoneFailed) draft)
  else s.moveCall call .admitted

/-- A call brings its invocation to the exchange. -/
def bring (s : Sandbox) (call : Nat) (invocation : Invocation) (now : Time.Instant) : Sandbox :=
  let ticket := s.traffic.senders.length
  let s := s.passing (.brings (.ofInvocation invocation now s.timeout))
  match s.traffic.senders[ticket]? with
  | some ⟨_, .refused reason⟩ =>
    s.release call (.returned (.failed .invokeDoneFailed) (exitDraft invocation.id reason))
  | _ => s.moveCall call (.brought ticket)

/-- What a call returns after it heard of a reply to an invocation. -/
def answer (id : String) : Reply → CallStage
  | .response body => .returned .served ((Draft.blank.setStatus .ok).write body)
  | .error body => .returned .served ((Draft.blank.setStatus .ok).write body)
  | .exited reason => .returned (.failed .invokeDoneFailed) (exitDraft id reason)

/-- Whether a sender has done all its steps. -/
def hasRung (s : Sandbox) (ticket : Ticket) : Bool :=
  s.traffic.senders[ticket]?.any fun sender => sender.stage = .rung

/-- A call takes note of what became of its invocation. -/
def hear (s : Sandbox) (call : Nat) (id : String) (ticket : Ticket) : Sandbox :=
  match s.exchange.inbox ticket with
  | .reply reply => (s.withExchange (s.exchange.collect ticket)).release call (answer id reply)
  | .closed => s.release call (.returned (.failed .internalServerError) .blank)
  | .unread => s

/-! ## Starts -/

/-- A start moves on. -/
def moveStart (s : Sandbox) (start : Nat) (stage : StartStage) : Sandbox :=
  { s with starts := s.starts.set start stage }

/-- A start begins. A bootstrap that cannot be launched ends it at once. -/
def begin (s : Sandbox) (timeout : UInt64) (refusal : Option Bootstrap.LaunchProblem) : Sandbox :=
  let s := { s with timeout }
  match refusal with
  | some problem =>
    let s := s.passing (.failsStart (launchDocument problem.message))
    { s with starts := s.starts ++ [.returned (some problem.message)] }
  | none => { s with starts := s.starts ++ [.waiting] }

/-- What a start returns once the function was started or failed to. -/
def startFailure (x : Exchange) : Option String :=
  match x.phase with
  | .ready => none
  | _ => some ((x.startError.map describeDocument).getD "init failed")

/-! ## Events -/

/-- A request from the function. -/
def request (s : Sandbox) (r : Http.Request) : Sandbox :=
  match Exchange.Api.handle s.exchange r with
  | .answered _ exchange logged => (s.withExchange exchange).logging logged
  | .polls exchange => (s.withExchange exchange).passing .asks

/-- What is logged when the process of the function ends. -/
def exitLogged (program reason : String) : Log.Entry :=
  Log.warning ("Runtime " ++ program ++ " exited: " ++ reason)

/-- What a call does, if there is such a call and it stands where it can do so. -/
def stepCall (s : Sandbox) (call : Nat) (act : Call → Option Sandbox) : Sandbox :=
  (s.calls[call]?.bind act).getD s

/-- What an event leads to. -/
def step (s : Sandbox) : Event → Sandbox
  | .arrives invocation => s.arrive invocation
  | .checks call => s.stepCall call fun c =>
    if c.stage = .reserved then some (s.check call) else none
  | .brings call now => s.stepCall call fun c =>
    if c.stage = .admitted then some (s.bring call c.invocation now) else none
  | .queues call => s.stepCall call fun c =>
    match c.stage with
    | .brought ticket => some (s.passing (.queues ticket))
    | _ => none
  | .rings call => s.stepCall call fun c =>
    match c.stage with
    | .brought ticket => some (s.passing (.rings ticket))
    | _ => none
  | .hears call => s.stepCall call fun c =>
    match c.stage with
    | .brought ticket =>
      if s.hasRung ticket then some (s.hear call c.invocation.id ticket) else none
    | _ => none
  | .expires call => s.stepCall call fun c =>
    match c.stage with
    | .brought ticket =>
      if s.hasRung ticket && s.exchange.inbox ticket = .unread then some (s.moveCall call .expired)
      else none
    | _ => none
  | .forgets call => s.stepCall call fun c =>
    if c.stage = .expired then
      some ((s.passing (.forgets c.invocation.id)).moveCall call .forgotten)
    else none
  | .withdraws call => s.stepCall call fun c =>
    if c.stage = .forgotten then
      some ((s.passing (.withdraws c.invocation.id)).release call
        (.returned (.failed .invokeTimeout) .blank))
    else none
  | .drops call => s.stepCall call fun c =>
    match c.stage with
    | .returned _ _ => none
    | .dropped => none
    | _ => some (s.release call .dropped)
  | .requests r => s.request r
  | .looks poller => s.passing (.looks poller)
  | .sleeps poller => s.passing (.sleeps poller)
  | .leaves poller => s.passing (.leaves poller)
  | .begins timeout refusal => s.begin timeout refusal
  | .settles start =>
    if s.starts[start]? = some .waiting ∧ s.exchange.phase ≠ .pending then
      s.moveStart start (.returned (startFailure s.exchange))
    else s
  | .lapses start =>
    if s.starts[start]? = some .waiting ∧ s.exchange.phase = .pending then
      s.moveStart start .overdue
    else s
  | .yields start =>
    if s.starts[start]? = some .overdue then
      (s.passing (.failsStart overdueDocument)).moveStart start (.returned (some overdueMessage))
    else s
  | .exits program reason =>
    (s.logging [exitLogged program reason]).passing (.exits reason (startExitDocument reason))
  | .reports exit => s.passing (.reports exit)

/-- What several events lead to. -/
def run (s : Sandbox) (events : List Event) : Sandbox :=
  events.foldl step s

/-- What a call returned, if it did. -/
def returned? (s : Sandbox) (call : Nat) : Option (Outcome × Draft) :=
  match s.callStage? call with
  | some (.returned outcome draft) => some (outcome, draft)
  | _ => none

/-- What a start returned, if it did: why it failed, if it did. -/
def started? (s : Sandbox) (start : Nat) : Option (Option String) :=
  match s.starts[start]? with
  | some (.returned failure) => some failure
  | _ => none

end Sandbox

end FunctionHost
