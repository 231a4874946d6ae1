-- SUMMARY: An exchange used by many at once, whose operations may be interrupted between their steps.
import FunctionHost.Exchange.Basic

/-! # Traffic at an exchange

Whoever brings an invocation first registers for the reply, then queues it, and then rings. Whoever
asks for one looks at the queue, sleeps at the bell if it is empty, and looks again when woken. The
exit of the function is reported in four steps. Between any two of these steps others may take
theirs, and every single step is uninterrupted. An event that does not apply to where somebody
stands changes nothing. -/

namespace FunctionHost

namespace Exchange

/-- Where somebody stands who brings an invocation. -/
inductive Sending where
  | refused (reason : String)
  | enrolled
  | queued
  | rung
  deriving Repr, DecidableEq

/-- Where somebody stands who asks for an invocation: about to look, about to sleep after finding
    nothing, at the bell, or done. -/
inductive Asking where
  | looking
  | turning
  | resting
  | served (q : Queued)
  | gone
  deriving DecidableEq

/-- How far the report of an exit has come. -/
inductive Reporting where
  | recorded
  | failed
  | drained
  | cleared
  deriving Repr, DecidableEq

/-- An invocation that was brought. -/
structure Sender where
  queued : Queued
  stage : Sending
  deriving DecidableEq

/-- The report of an exit. -/
structure ExitReport where
  reason : String
  document : Bytes
  stage : Reporting
  deriving DecidableEq

end Exchange

open Exchange

/-- An exchange with everybody who uses it. Senders are numbered by their tickets, and everybody in
    order of coming. -/
structure Traffic where
  exchange : Exchange
  senders : List Sender
  pollers : List Asking
  exits : List ExitReport
  deriving DecidableEq

namespace Traffic

/-- Nobody has come yet. -/
def fresh : Traffic :=
  ⟨.fresh, [], [], []⟩

instance : Inhabited Traffic := ⟨fresh⟩

/-- What can happen. -/
inductive Event where
  | brings (q : Queued)
  | queues (sender : Ticket)
  | rings (sender : Ticket)
  | asks
  | looks (poller : Poller)
  | sleeps (poller : Poller)
  | leaves (poller : Poller)
  | replies (id : String) (reply : Reply)
  | forgets (id : String)
  | withdraws (id : String)
  | marksReady
  | failsStart (document : Bytes)
  | exits (reason : String) (document : Bytes)
  | reports (exit : Nat)
  deriving DecidableEq

/-- A sender moves on. -/
def moveSender (t : Traffic) (sender : Ticket) (stage : Sending) : Traffic :=
  { t with senders := t.senders.modify sender fun s => { s with stage } }

/-- A poller moves on. -/
def movePoller (t : Traffic) (poller : Poller) (stage : Asking) : Traffic :=
  { t with pollers := t.pollers.set poller stage }

/-- Somebody brings an invocation and registers for the reply. -/
def bring (t : Traffic) (q : Queued) : Traffic :=
  match t.exchange.enroll q.invocation.id t.senders.length with
  | .ok exchange => { t with exchange, senders := t.senders ++ [⟨q, .enrolled⟩] }
  | .error reason => { t with senders := t.senders ++ [⟨q, .refused reason⟩] }

/-- A poller looks at the queue. -/
def look (t : Traffic) (poller : Poller) : Traffic :=
  match t.exchange.pop? with
  | some (q, exchange) => { t with exchange }.movePoller poller (.served q)
  | none => t.movePoller poller .turning

/-- The next step of the report of an exit. -/
def report (t : Traffic) (exit : Nat) (r : ExitReport) : Traffic :=
  let x := t.exchange
  let (exchange, stage) : Exchange × Reporting :=
    match r.stage with
    | .recorded => (x.failStart r.document, .failed)
    | .failed => (x.drain r.reason, .drained)
    | .drained => (x.clear, .cleared)
    | .cleared => (x, .cleared)
  { t with exchange, exits := t.exits.set exit { r with stage } }

/-- What an event leads to. -/
def step (t : Traffic) : Event → Traffic
  | .brings q => t.bring q
  | .queues sender =>
    match t.senders[sender]? with
    | some ⟨q, .enrolled⟩ =>
      { t with exchange := t.exchange.push q }.moveSender sender .queued
    | _ => t
  | .rings sender =>
    match t.senders[sender]? with
    | some ⟨_, .queued⟩ => { t with exchange := t.exchange.ring }.moveSender sender .rung
    | _ => t
  | .asks => { t with pollers := t.pollers ++ [.looking] }
  | .looks poller =>
    match t.pollers[poller]? with
    | some .looking => t.look poller
    | some .resting =>
      if t.exchange.bell.woken.contains poller then
        let exchange := { t.exchange with bell := t.exchange.bell.look poller }
        { t with exchange }.look poller
      else t
    | _ => t
  | .sleeps poller =>
    match t.pollers[poller]? with
    | some .turning =>
      { t with exchange := t.exchange.sleep poller }.movePoller poller .resting
    | _ => t
  | .leaves poller =>
    match t.pollers[poller]? with
    | some .resting =>
      let exchange := { t.exchange with bell := t.exchange.bell.leave poller }
      { t with exchange }.movePoller poller .gone
    | some .looking => t.movePoller poller .gone
    | some .turning => t.movePoller poller .gone
    | _ => t
  | .replies id reply =>
    match t.exchange.deliver? id reply with
    | some exchange => { t with exchange }
    | none => t
  | .forgets id => { t with exchange := t.exchange.forget id }
  | .withdraws id => { t with exchange := t.exchange.withdraw id }
  | .marksReady => { t with exchange := t.exchange.markReady }
  | .failsStart document => { t with exchange := t.exchange.failStart document }
  | .exits reason document =>
    { t with
      exchange := t.exchange.recordExit reason
      exits := t.exits ++ [⟨reason, document, .recorded⟩] }
  | .reports exit =>
    match t.exits[exit]? with
    | some r => t.report exit r
    | none => t

/-- What several events lead to. -/
def run (t : Traffic) (events : List Event) : Traffic :=
  events.foldl step t

end Traffic

end FunctionHost
