-- SUMMARY: The lines that are written about each invocation.
import FunctionHost.Number.Fixed
import FunctionHost.Time.Span

/-! # Telemetry lines

An invocation has a line when it starts, one when it ends, and a report of how long it took. How
much memory it used cannot be seen from outside, so the report shows the memory it was given. -/

namespace FunctionHost.Telemetry

/-- A line about an invocation. The durations of a report are in milliseconds. -/
inductive Line where
  | started (id version : String)
  | ended (id : String)
  | report (id : String) (init : Option Number.Binary64) (duration : Number.Binary64)
      (memory : String)
  deriving Repr, DecidableEq

/-- The part of a report about the start of the function, if this invocation waited for it. -/
def initSegment : Option Number.Binary64 → String
  | some millis => "Init Duration: " ++ millis.fixed 2 ++ " ms\t"
  | none => ""

/-- The text of a line, without its line feed. The billed duration is the duration rounded up to
    whole milliseconds. -/
def Line.render : Line → String
  | .started id version => "START RequestId: " ++ id ++ " Version: " ++ version
  | .ended id => "END RequestId: " ++ id
  | .report id init duration memory =>
    "REPORT RequestId: " ++ id ++ "\t" ++ initSegment init
      ++ "Duration: " ++ duration.fixed 2 ++ " ms\t"
      ++ "Billed Duration: " ++ duration.ceil.fixed 0 ++ " ms\t"
      ++ "Memory Size: " ++ memory ++ " MB\t"
      ++ "Max Memory Used: " ++ memory ++ " MB\t"

/-- The two lines about an invocation that came to its end. -/
def closing (id : String) (init : Option Number.Binary64) (memory : String)
    (elapsed limit : Time.Span) : List Line :=
  [.ended id, .report id init (elapsed.clampedMillis limit) memory]

end FunctionHost.Telemetry
