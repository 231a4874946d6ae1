-- SUMMARY: Whole operations at an exchange, what each of them results in, and runs of them.
import FunctionHost.Exchange.Basic

/-! # Operations

Everything that is done at an exchange from outside is one of a few operations. Here each of them
is carried out without interruption, and says what it resulted in. -/

namespace FunctionHost.Exchange

/-- What can be done at an exchange. Whoever queues an invocation brings the ticket for its reply,
    and whoever asks for one goes by a number. -/
inductive Operation where
  | enqueue (q : Queued) (ticket : Ticket)
  | poll (p : Poller)
  | retry (p : Poller)
  | reply (id : String) (reply : Reply)
  | abandon (id : String)
  | markReady
  | failStart (document : Bytes)
  | exit (reason : String) (document : Bytes)
  deriving DecidableEq

/-- What an operation results in. Marking the start as ready or failed says whether the start was
    still pending. -/
inductive Result where
  | queued
  | refused (reason : String)
  | handed (q : Queued)
  | sleeping
  | accepted
  | unknown
  | settled (now : Bool)
  | done
  deriving DecidableEq

/-- The result for whoever asked for an invocation. -/
def Result.ofPoll : Option Queued → Result
  | some q => .handed q
  | none => .sleeping

/-- Carries out an operation. -/
def perform (x : Exchange) : Operation → Exchange × Result
  | .enqueue q ticket =>
    match x.enqueue q ticket with
    | .ok x => (x, .queued)
    | .error reason => (x, .refused reason)
  | .poll p => ((x.poll p).2, .ofPoll (x.poll p).1)
  | .retry p => ((x.retry p).2, .ofPoll (x.retry p).1)
  | .reply id reply =>
    match x.deliver? id reply with
    | some x => (x, .accepted)
    | none => (x, .unknown)
  | .abandon id => (x.abandon id, .done)
  | .markReady => (x.markReady, .settled (x.phase = .pending))
  | .failStart document => (x.failStart document, .settled (x.phase = .pending))
  | .exit reason document => (x.exited reason document, .done)

/-- Carries out operations one after the other. -/
def performAll (x : Exchange) : List Operation → Exchange × List Result
  | [] => (x, [])
  | op :: rest =>
    let (x, result) := x.perform op
    let (x, results) := performAll x rest
    (x, result :: results)

end FunctionHost.Exchange
