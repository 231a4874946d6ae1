-- SUMMARY: Callers played against the startup gate with a scripted sandbox.
import FunctionHost.Rehearsal.Script
import FunctionHost.Startup.Gate
import FunctionHost.Startup.Plan

/-! # Rehearsing the gate

Callers come to the gate one by one, several at once, or with limited patience. One whose patience
ends while it carries out the start goes away, and the start is left unfinished. If the start ends
at the same instant, it counts as finished. -/

namespace FunctionHost.Rehearsal

/-- What one caller learns at the gate: nothing if somebody else carried out the start, otherwise
    how the start ended, unless the caller went away. -/
inductive Passage where
  | passed
  | started (report : StartReport)
  | cancelled
  deriving DecidableEq

/-- How callers come to the gate. -/
inductive Visit where
  | single
  | together (number : Nat)
  | impatient (patience : Nat)
  deriving DecidableEq

/-- A gate under rehearsal, with what was logged and how many callers have come so far. -/
structure GateRehearsal where
  plan : Plan
  gate : Gate StartReport
  callers : Nat
  log : List Log.Entry

namespace GateRehearsal

/-- Before the first caller. -/
def fresh (plan : Plan) : GateRehearsal :=
  ⟨plan, .fresh, 0, []⟩

/-- Callers come to the gate together, all of them patient. The first may have to carry out the
    start. -/
def enterAll (r : GateRehearsal) (script : StartScript) (number : Nat) :
    GateRehearsal × List Passage × Nat :=
  let callers := (List.range number).map (r.callers + ·)
  let entered := callers.foldl Gate.enter r.gate
  let r := { r with callers := r.callers + number }
  match entered.runner with
  | some runner =>
    let report := r.plan.report script.failure (.ofMillis script.block)
    ({ r with gate := entered.finish report, log := r.log ++ Plan.logged script.failure },
      callers.map fun c => if c = runner then .started report else .passed,
      script.delay)
  | none => ({ r with gate := entered }, callers.map fun _ => .passed, 0)

/-- A caller with limited patience comes to the gate. -/
def enterImpatient (r : GateRehearsal) (script : StartScript) (patience : Nat) :
    GateRehearsal × List Passage × Nat :=
  if r.gate.isOpen || script.delay ≤ patience then r.enterAll script 1
  else
    let caller := r.callers
    ({ r with gate := (r.gate.enter caller).leave caller, callers := caller + 1 },
      [.cancelled], patience)

/-- Callers come to the gate: the rehearsal afterwards, what each of them learns, and the time that
    passed on the virtual clock. -/
def visit (r : GateRehearsal) (script : StartScript) : Visit → GateRehearsal × List Passage × Nat
  | .single => r.enterAll script 1
  | .together number => r.enterAll script number
  | .impatient patience => r.enterImpatient script patience

end GateRehearsal

end FunctionHost.Rehearsal
