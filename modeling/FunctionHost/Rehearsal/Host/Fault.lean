-- SUMMARY: Why a host refuses to open a path or to start a program, with numbers and descriptions.

/-! # Faults of a host

A host answers a request that it cannot fulfil with a number, which the description of a fault
shows. -/

namespace FunctionHost.Rehearsal.Host

/-- Why a host refuses something. -/
inductive Fault where
  | missing
  | tooManyWords
  | denied
  | present
  | notDirectory
  | isDirectory
  | nameTooLong
  deriving Repr, DecidableEq

namespace Fault

/-- The number of a fault. -/
def number : Fault → Nat
  | .missing => 2
  | .tooManyWords => 7
  | .denied => 13
  | .present => 17
  | .notDirectory => 20
  | .isDirectory => 21
  | .nameTooLong => 36

/-- What a fault is called. -/
def name : Fault → String
  | .missing => "No such file or directory"
  | .tooManyWords => "Argument list too long"
  | .denied => "Permission denied"
  | .present => "File exists"
  | .notDirectory => "Not a directory"
  | .isDirectory => "Is a directory"
  | .nameTooLong => "File name too long"

/-- The description of a fault. -/
def message (fault : Fault) : String :=
  s!"{fault.name} (os error {fault.number})"

end Fault

end FunctionHost.Rehearsal.Host
