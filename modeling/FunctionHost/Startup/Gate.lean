-- SUMMARY: A gate that opens for all callers once one of them has finished a task.

/-! # Gates

The first caller that comes to a gate carries out a task, and those that come while it is under
way wait. When the task is finished, the gate is open for good: everyone who waits may pass, and
everyone who comes later passes at once. A caller may go away. If it was the one carrying out the
task, the one that has waited longest starts the task anew. -/

namespace FunctionHost

/-- A caller at a gate. -/
abbrev Caller := Nat

/-- A gate: what the task resulted in once it is finished, who is carrying it out, who waits in
    order of arrival, and how often the task was started. -/
structure Gate (ω : Type) where
  outcome : Option ω
  runner : Option Caller
  waiting : List Caller
  starts : Nat
  deriving Repr, DecidableEq

namespace Gate

variable {ω : Type}

/-- A gate that nobody has come to. -/
def fresh : Gate ω :=
  ⟨none, none, [], 0⟩

instance : Inhabited (Gate ω) := ⟨fresh⟩

/-- What happens to a caller that comes to a gate. -/
inductive Entry where
  | passes
  | runs
  | waits
  deriving Repr, DecidableEq

/-- Whether a gate is open. -/
def isOpen (g : Gate ω) : Bool :=
  g.outcome.isSome

/-- What happens to a caller that comes now. -/
def entry (g : Gate ω) : Entry :=
  if g.isOpen then .passes
  else if g.runner.isSome then .waits
  else .runs

/-- A gate after a caller came to it. -/
def enter (g : Gate ω) (c : Caller) : Gate ω :=
  match g.entry with
  | .passes => g
  | .runs => { g with runner := some c, starts := g.starts + 1 }
  | .waits => { g with waiting := g.waiting ++ [c] }

/-- A gate after its task was finished. -/
def finish (g : Gate ω) (outcome : ω) : Gate ω :=
  { g with outcome := some outcome, runner := none, waiting := [] }

/-- A gate after a caller went away. The one that takes over from it counts as having started the
    task at once. In fact it is only granted the permit to do so, and starts the task when it is
    polled next. A caller that goes away before that has started nothing, though it is counted. -/
def leave (g : Gate ω) (c : Caller) : Gate ω :=
  if g.runner = some c then
    match g.waiting with
    | next :: rest => { g with runner := some next, waiting := rest, starts := g.starts + 1 }
    | [] => { g with runner := none }
  else { g with waiting := g.waiting.filter (· ≠ c) }

end Gate

end FunctionHost
