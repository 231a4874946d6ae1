-- SUMMARY: Entries of the diagnostic log.

/-! # The diagnostic log

Beside the lines about invocations, which are output, the program keeps a log of what went
wrong. -/

namespace FunctionHost.Log

/-- How serious an entry is. -/
inductive Level where
  | warning
  | error
  deriving Repr, DecidableEq

/-- The name of a level. -/
def Level.name : Level → String
  | .warning => "WARN"
  | .error => "ERROR"

/-- An entry of the log. -/
structure Entry where
  level : Level
  message : String
  deriving Repr, DecidableEq

/-- An entry about something unusual. -/
def warning (message : String) : Entry :=
  ⟨.warning, message⟩

/-- An entry about a failure. -/
def error (message : String) : Entry :=
  ⟨.error, message⟩

end FunctionHost.Log
