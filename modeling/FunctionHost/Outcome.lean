-- SUMMARY: How an invocation can end.

/-! # Outcomes

A sandbox either serves an invocation or reports one of a closed set of failures. They fall into
three groups: the sandbox could not be reserved, the function could not be invoked, or the end
of the invocation could not be awaited. -/

namespace FunctionHost

/-- Why a sandbox did not serve an invocation. -/
inductive Failure where
  | alreadyReserved
  | internalServerError
  | initDoneFailed
  | reserveReservationDone
  | notReserved
  | alreadyReplied
  | alreadyInvocating
  | invokeReservationDone
  | invokeResponseAlreadyWritten
  | invokeDoneFailed
  | releaseReservationDone
  | invokeTimeout
  deriving Repr, DecidableEq

namespace Failure

/-- All failures, in the order of the phases in which they arise. -/
def all : List Failure :=
  [ .alreadyReserved, .internalServerError, .initDoneFailed, .reserveReservationDone,
    .notReserved, .alreadyReplied, .alreadyInvocating, .invokeReservationDone,
    .invokeResponseAlreadyWritten, .invokeDoneFailed, .releaseReservationDone, .invokeTimeout ]

/-- The name of a failure. -/
def name : Failure → String
  | .alreadyReserved => "AlreadyReserved"
  | .internalServerError => "InternalServerError"
  | .initDoneFailed => "InitDoneFailed"
  | .reserveReservationDone => "ReserveReservationDone"
  | .notReserved => "NotReserved"
  | .alreadyReplied => "AlreadyReplied"
  | .alreadyInvocating => "AlreadyInvocating"
  | .invokeReservationDone => "InvokeReservationDone"
  | .invokeResponseAlreadyWritten => "InvokeResponseAlreadyWritten"
  | .invokeDoneFailed => "InvokeDoneFailed"
  | .releaseReservationDone => "ReleaseReservationDone"
  | .invokeTimeout => "InvokeTimeout"

/-- The description of a failure. -/
def message : Failure → String
  | .alreadyReserved => "sandbox already reserved"
  | .internalServerError => "internal server error"
  | .initDoneFailed => "init failed"
  | .reserveReservationDone => "reservation done while reserving"
  | .notReserved => "not reserved"
  | .alreadyReplied => "already replied"
  | .alreadyInvocating => "already invoking"
  | .invokeReservationDone => "reservation done while invoking"
  | .invokeResponseAlreadyWritten => "invoke response already written"
  | .invokeDoneFailed => "invoke failed"
  | .releaseReservationDone => "reservation done while releasing"
  | .invokeTimeout => "invoke timed out"

/-- The failure with a given name. -/
def ofName? (text : String) : Option Failure :=
  all.find? fun f => f.name == text

end Failure

/-- How an invocation ended: served, or with a failure. -/
inductive Outcome where
  | served
  | failed (failure : Failure)
  deriving Repr, DecidableEq

namespace Outcome

/-- The name of an outcome. -/
def name : Outcome → String
  | .served => "Ok"
  | .failed failure => failure.name

/-- The description of an outcome that is a failure. -/
def message? : Outcome → Option String
  | .served => none
  | .failed failure => some failure.message

/-- The outcome with a given name. -/
def ofName? (text : String) : Option Outcome :=
  if text == "Ok" then some .served else (Failure.ofName? text).map .failed

end Outcome

end FunctionHost
