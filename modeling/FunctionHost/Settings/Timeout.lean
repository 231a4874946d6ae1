-- SUMMARY: Reading the time limit of a function from its variable.
import FunctionHost.Text.Quoted

/-! # The time limit

The time limit is a number of whole seconds in decimal digits, with at most one plus sign before
them. It must fit into 64 bits to be a number at all, and into 32 bits to be accepted. The digits
are read from left to right, and the first problem met is the one reported. -/

namespace FunctionHost.Settings

/-- Why a text is not a whole number of 64 bits. -/
inductive NumberProblem where
  | badDigit
  | tooLarge
  deriving Repr, DecidableEq

/-- The description of a problem with a number. -/
def NumberProblem.message : NumberProblem → String
  | .badDigit => "invalid digit found in string"
  | .tooLarge => "number too large to fit in target type"

/-- Why a time limit is refused. -/
inductive Problem where
  | notANumber (value : String) (reason : NumberProblem)
  | outOfRange (value : Nat)
  deriving Repr, DecidableEq

/-- The longest accepted time limit, in seconds. -/
def maxTimeout : Nat := UInt32.size - 1

/-- The description of a refused time limit. -/
def Problem.message : Problem → String
  | .notANumber value _ =>
    "invalid AWS_LAMBDA_FUNCTION_TIMEOUT value " ++ Text.Quoted.quote value
  | .outOfRange value =>
    s!"AWS_LAMBDA_FUNCTION_TIMEOUT value {value} exceeds the maximum of {maxTimeout} seconds"

/-- The description of what caused a problem, if something else did. -/
def Problem.cause? : Problem → Option String
  | .notANumber _ reason => some reason.message
  | .outOfRange _ => none

/-- The number of 64 bits that digits continue, given the number of the digits before them. -/
def readDigits (value : Nat) : List Char → Except NumberProblem Nat
  | [] => .ok value
  | c :: rest =>
    if c.isDigit then
      let next := value * 10 + (c.toNat - 48)
      if next < UInt64.size then readDigits next rest else .error .tooLarge
    else .error .badDigit

/-- The number of 64 bits that a text is written as. -/
def readNumber (cs : List Char) : Except NumberProblem Nat :=
  match cs with
  | [] => .error .badDigit
  | '+' :: c :: rest => readDigits 0 (c :: rest)
  | _ => readDigits 0 cs

/-- The time limit in seconds that a text stands for. -/
def parseTimeout (raw : String) : Except Problem Nat :=
  match readNumber raw.toList with
  | .ok seconds => if seconds ≤ maxTimeout then .ok seconds else .error (.outOfRange seconds)
  | .error reason => .error (.notANumber raw reason)

end FunctionHost.Settings
