-- SUMMARY: How a function is to be started, and what is known of the start afterwards.
import FunctionHost.Log
import FunctionHost.Startup.Descriptor

/-! # Startup plans

A plan is everything that is fixed before the first request: the settings, the environment and
the bootstrap. A sandbox is started once according to it. However the start ends, invocations
follow, and the first of them reports how long the start took. -/

namespace FunctionHost

/-- How a function is to be started and run. -/
structure Plan where
  settings : Settings
  environment : Environment
  bootstrap : Bootstrap
  deriving DecidableEq

/-- How a start ended: how many milliseconds it took, at most the time limit, and whether it
    succeeded. -/
structure StartReport where
  duration : Number.Binary64
  succeeded : Bool
  deriving Repr, DecidableEq

/-- What a sandbox is told when it is started. -/
structure StartCall where
  descriptor : Descriptor
  timeoutMillis : UInt64
  deriving DecidableEq

namespace Plan

/-- What a sandbox is told when it is started according to a plan. -/
def call (p : Plan) : StartCall where
  descriptor := .build p.settings p.environment p.bootstrap
  timeoutMillis := p.settings.timeoutMillis

/-- The report of a start that took some time and may have failed. -/
def report (p : Plan) (failure : Option String) (elapsed : Time.Span) : StartReport where
  duration := elapsed.clampedMillis p.settings.timeout
  succeeded := failure.isNone

/-- The description of a failed start. -/
def describeFailure (message : String) : String :=
  "sandbox initialisation failed: " ++ message

/-- What is logged about a start that may have failed. -/
def logged (failure : Option String) : List Log.Entry :=
  match failure with
  | some message => [Log.error ("Sandbox init failed: " ++ describeFailure message)]
  | none => []

end Plan

end FunctionHost
