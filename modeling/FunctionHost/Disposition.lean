-- SUMMARY: What becomes of an invocation, given its outcome.
import FunctionHost.Draft
import FunctionHost.Http.Message
import FunctionHost.Log
import FunctionHost.Outcome

/-! # Dispositions

The outcome of an invocation decides which answer its client gets and whether the end of the
invocation is reported: the draft as it stands, a bare status, the draft as a diagnosis under a
status of its own, or the announcement of a timeout. -/

namespace FunctionHost

/-- What becomes of an invocation. -/
inductive Disposition where
  | commit (report : Bool)
  | empty (status : Http.Status)
  | diagnostic (status : Http.Status)
  | timedOut
  deriving DecidableEq

namespace Disposition

/-- What becomes of an invocation with a given outcome. -/
def of : Outcome → Disposition
  | .served => .commit true
  | .failed failure =>
    match failure with
    | .alreadyReserved => .empty .badRequest
    | .notReserved => .empty .badRequest
    | .alreadyReplied => .empty .badRequest
    | .alreadyInvocating => .empty .badRequest
    | .internalServerError => .empty .internalServerError
    | .initDoneFailed => .diagnostic .badGateway
    | .invokeDoneFailed => .diagnostic .badGateway
    | .reserveReservationDone => .empty .gatewayTimeout
    | .invokeReservationDone => .empty .gatewayTimeout
    | .releaseReservationDone => .empty .gatewayTimeout
    | .invokeResponseAlreadyWritten => .commit false
    | .invokeTimeout => .timedOut

/-- Whether the end of the invocation is reported. -/
def reports : Disposition → Bool
  | .commit report => report
  | .timedOut => true
  | _ => false

/-- Announces that a function ran for longer than it may. -/
def timeoutMessage (seconds : UInt64) : String :=
  "Task timed out after " ++ toString seconds.toNat ++ ".00 seconds"

/-- The answer to the client. -/
def answer (d : Disposition) (timeoutSeconds : UInt64) (draft : Draft) : Http.Response :=
  match d with
  | .commit _ => .binary (draft.status.getD .ok) draft.body
  | .empty status => .bare status
  | .diagnostic status => .binary status draft.body
  | .timedOut => .text .ok (timeoutMessage timeoutSeconds)

/-- How long the answer is held back after a timeout, in milliseconds. -/
def timeoutPause : Nat := 100

/-- How long the answer is held back, in milliseconds. -/
def pause : Disposition → Nat
  | .timedOut => timeoutPause
  | _ => 0

/-- What is logged about a failure that the client only sees as a bare status. -/
def logged : Outcome → List Log.Entry
  | .failed .alreadyReserved =>
    [Log.error ("Failed to reserve: " ++ Failure.alreadyReserved.message)]
  | .failed .notReserved =>
    [Log.error ("Failed to set reply stream: " ++ Failure.notReserved.message)]
  | .failed .alreadyReplied =>
    [Log.error ("Failed to set reply stream: " ++ Failure.alreadyReplied.message)]
  | .failed .alreadyInvocating =>
    [Log.error ("Failed to set reply stream: " ++ Failure.alreadyInvocating.message)]
  | _ => []

end Disposition

end FunctionHost
