-- SUMMARY: How often the sandbox is started if those at the gate may go away, and when it is started again.
import FunctionHost.Proofs.Endpoint.Gate
import FunctionHost.Proofs.Endpoint.Start

/-! # Starts that are given up

A start is given up when the task that carries it out goes away. Whoever has waited longest at the
gate then starts the sandbox anew, or else whoever comes next. So there is one start for each that
was given up, and one more if a start is under way or has returned. -/

namespace FunctionHost

namespace Gate

variable {ω : Type} {g : Gate ω} {given : Nat} {c : Caller}

/-! ## The starts of a gate -/

/-- How many starts are under way or have returned. -/
def standing (g : Gate ω) : Nat :=
  if g.runner.isSome ∨ g.isOpen then 1 else 0

theorem standing_le_one (g : Gate ω) : g.standing ≤ 1 := by
  rw [standing]
  split <;> omega

/-- The starts of a gate of which some were given up. -/
structure Counts (g : Gate ω) (given : Nat) : Prop where
  shut : g.runner.isSome → g.outcome = none
  starts : g.starts = given + g.standing

theorem Counts.fresh : (fresh : Gate ω).Counts 0 where
  shut h := by simp [Gate.fresh] at h
  starts := rfl

theorem Counts.runner_of_isOpen (h : g.Counts given) (opened : g.isOpen) : g.runner = none := by
  cases hrunner : g.runner with
  | none => rfl
  | some runner =>
    have hshut := h.shut (by simp [hrunner])
    simp [isOpen, hshut] at opened

theorem Counts.enter (h : g.Counts given) (c : Caller) : (g.enter c).Counts given := by
  cases hopen : g.isOpen with
  | true =>
    have henter : g.enter c = g := by simp [Gate.enter, entry, hopen]
    rw [henter]
    exact h
  | false =>
    have hshut : g.outcome = none := by simpa [isOpen] using hopen
    have hstarts := h.starts
    cases hrunner : g.runner with
    | none =>
      have henter : g.enter c = { g with runner := some c, starts := g.starts + 1 } := by
        simp [Gate.enter, entry, hopen, hrunner]
      rw [henter]
      refine ⟨fun _ => hshut, ?_⟩
      simpa [standing, hopen, hrunner] using hstarts
    | some runner =>
      have henter : g.enter c = { g with waiting := g.waiting ++ [c] } := by
        simp [Gate.enter, entry, hopen, hrunner]
      rw [henter]
      exact ⟨fun _ => hshut, hstarts⟩

theorem Counts.finish (h : g.Counts given) (running : g.runner.isSome) (outcome : ω) :
    (g.finish outcome).Counts given := by
  have hstarts := h.starts
  refine ⟨fun runs => by simp [Gate.finish] at runs, ?_⟩
  simpa [Gate.finish, standing, isOpen, running] using hstarts

/-- If whoever carries out a start goes away, the start is given up. -/
theorem Counts.leave_runner (h : g.Counts given) (running : g.runner = some c) :
    (g.leave c).Counts (given + 1) := by
  have hshut := h.shut (by simp [running])
  have hstarts : g.starts = given + 1 := by
    rw [h.starts]
    simp [standing, running]
  cases hwaiting : g.waiting with
  | nil =>
    have hleave : g.leave c = { g with runner := none } := by simp [leave, running, hwaiting]
    rw [hleave]
    exact ⟨fun _ => hshut, by simp [standing, isOpen, hshut, hstarts]⟩
  | cons next rest =>
    have hleave : g.leave c
        = { g with runner := some next, waiting := rest, starts := g.starts + 1 } := by
      simp [leave, running, hwaiting]
    rw [hleave]
    exact ⟨fun _ => hshut, by simp [standing, hstarts]⟩

theorem Counts.leave_other (h : g.Counts given) (other : g.runner ≠ some c) :
    (g.leave c).Counts given := by
  have hleave : g.leave c = { g with waiting := g.waiting.filter (· ≠ c) } := by
    simp [leave, other]
  rw [hleave]
  exact ⟨h.shut, h.starts⟩

theorem starts_le_enter (g : Gate ω) (c : Caller) : g.starts ≤ (g.enter c).starts := by
  rw [enter]
  split <;> simp

theorem starts_le_leave (g : Gate ω) (c : Caller) : g.starts ≤ (g.leave c).starts := by
  rw [leave]
  split
  · split <;> simp
  · simp

end Gate

namespace Endpoint

variable {e : Endpoint} {v : Event} {events : List Event} {given : Nat}

/-! ## The starts of an endpoint -/

/-- The task that gives up a start in an event. -/
def abandoning (e : Endpoint) : Event → List Nat
  | .leaves task => if e.gate.runner = some task then [task] else []
  | _ => []

/-- The tasks that give up a start over a run of events, in order. -/
def abandonments : Endpoint → List Event → List Nat :=
  record abandoning

/-- The sandbox was called for each start of the gate. -/
structure Counted (e : Endpoint) (given : Nat) : Prop where
  gate : e.gate.Counts given
  calls : e.starts = List.replicate e.gate.starts e.plan.call

theorem Counted.fresh (plan : Plan) (sink : Telemetry.Sink) : (fresh plan sink).Counted 0 where
  gate := .fresh
  calls := rfl

theorem Counted.of_gate {e' : Endpoint} {given' : Nat} (h : e.Counted given) {g : Gate StartReport}
    (gate : e'.gate = g) (starts : e'.starts = (e.withGate g).starts) (plan : e'.plan = e.plan)
    (counts : g.Counts given') (grows : e.gate.starts ≤ g.starts) : e'.Counted given' where
  gate := gate ▸ counts
  calls := by
    have hsum : e.gate.starts + (g.starts - e.gate.starts) = g.starts := by omega
    rw [starts, gate, plan, Endpoint.withGate, h.calls]
    simp only [List.replicate_append_replicate, hsum]

theorem Counted.step (h : e.Counted given) (gathered : e.Gathered) (v : Event) :
    (e.step v).Counted (given + (abandoning e v).length) := by
  generalize he : e.step v = e'
  cases he ▸ transition e v with
  | idle v lost =>
    have hnone : abandoning e v = [] := by
      cases v with
      | leaves task =>
        simp only [abandoning]
        split
        · next running =>
          exact absurd ⟨_, gathered.atGate_of_running running, by simp⟩ lost
        · rfl
      | arrives | startReturns | invokes | returns | writes | resumes => rfl
    rw [hnone]
    exact h
  | arrives call =>
    exact h.of_gate rfl rfl rfl (h.gate.enter e.tasks.length) (Gate.starts_le_enter _ _)
  | opens runner failure elapsed running =>
    rw [startReturned_eq]
    exact ⟨h.gate.finish (by simp [running]) _, h.calls⟩
  | departs task stage stands unanswered =>
    by_cases running : e.gate.runner = some task
    · simp only [abandoning, running, if_true]
      exact h.of_gate rfl rfl rfl (h.gate.leave_runner running) (Gate.starts_le_leave _ _)
    · simp only [abandoning, running, if_false]
      exact h.of_gate rfl rfl rfl (h.gate.leave_other running) (Gate.starts_le_leave _ _)
  | invokes | returns | writes | resumes => exact ⟨h.gate, h.calls⟩

theorem Counted.run (h : e.Counted given) (gathered : e.Gathered) (events : List Event) :
    (e.run events).Counted (given + (abandonments e events).length) := by
  induction events generalizing e given with
  | nil => exact h
  | cons v rest ih =>
    rw [abandonments, record, List.length_append, ← Nat.add_assoc]
    exact ih (h.step gathered v) (gathered.step v)

theorem run_append (e : Endpoint) (before after : List Event) :
    e.run (before ++ after) = (e.run before).run after := List.foldl_append

theorem counted_run (plan : Plan) (sink : Telemetry.Sink) (events : List Event) :
    ((fresh plan sink).run events).Counted (abandonments (fresh plan sink) events).length := by
  simpa using (Counted.fresh plan sink).run (.fresh plan sink) events

theorem Counted.length_starts (h : e.Counted given) :
    e.starts.length = given + e.gate.standing := by
  rw [h.calls, List.length_replicate, h.gate.starts]

theorem length_starts_step (e : Endpoint) (v : Event) :
    e.starts.length ≤ (e.step v).starts.length := by
  generalize he : e.step v = e'
  cases he ▸ transition e v with
  | opens runner failure elapsed =>
    have hstarts : (e.startReturned runner failure elapsed).starts = e.starts := by
      rw [startReturned_eq]
    exact Nat.le_of_eq (congrArg List.length hstarts.symm)
  | arrives | departs => simp [arrive, depart, move, withGate]
  | idle | invokes | returns | writes | resumes => exact Nat.le_refl _

theorem length_starts_run (e : Endpoint) (events : List Event) :
    e.starts.length ≤ (e.run events).starts.length := by
  induction events generalizing e with
  | nil => exact Nat.le_refl _
  | cons v rest ih => exact Nat.le_trans (length_starts_step e v) (ih (e.step v))

/-! ## While no start is under way -/

/-- While no start is under way, only an arrival at a shut gate changes that. -/
theorem quiet_step (idle : e.gate.runner = none)
    (passes : ∀ call, v = .arrives call → e.gate.isOpen) :
    (e.step v).gate.runner = none ∧ (e.step v).gate.outcome = e.gate.outcome ∧
      (e.step v).starts = e.starts := by
  generalize he : e.step v = e'
  cases he ▸ transition e v with
  | arrives call =>
    have henter : e.gate.enter e.tasks.length = e.gate := by
      simp [Gate.enter, Gate.entry, passes call rfl]
    simp [arrive, withGate, henter, idle]
  | opens runner failure elapsed running => simp [idle] at running
  | departs task stage stands unanswered =>
    have hleave : e.gate.leave task
        = { e.gate with waiting := e.gate.waiting.filter (· ≠ task) } := by
      simp [Gate.leave, idle]
    simp [depart, withGate, move, hleave, idle]
  | idle | invokes | returns | writes | resumes => exact ⟨idle, rfl, rfl⟩

theorem quiet_run (idle : e.gate.runner = none)
    (passes : ∀ call, .arrives call ∈ events → e.gate.isOpen) :
    (e.run events).starts = e.starts := by
  induction events generalizing e with
  | nil => rfl
  | cons v rest ih =>
    obtain ⟨idle', outcome, starts⟩ := quiet_step (v := v) idle fun call event =>
      passes call (event ▸ List.mem_cons_self)
    refine (ih idle' fun call arrives => ?_).trans starts
    rw [Gate.isOpen, outcome]
    exact passes call (List.mem_cons_of_mem v arrives)

/-- No start is under way or has returned. -/
def Idle (e : Endpoint) : Prop :=
  e.gate.runner = none ∧ e.gate.outcome = none

/-- Whoever comes to an idle gate starts the sandbox. -/
theorem Idle.arrive (h : e.Idle) (call : Call) :
    (e.arrive call).starts.length = e.starts.length + 1 := by
  obtain ⟨hrunner, hshut⟩ := h
  simp [Endpoint.arrive, withGate, Gate.enter, Gate.entry, Gate.isOpen, hrunner, hshut]

theorem Idle.starts_lt_run (h : e.Idle) {call : Call} (arrives : .arrives call ∈ events) :
    e.starts.length < (e.run events).starts.length := by
  induction events generalizing e with
  | nil => cases arrives
  | cons v rest ih =>
    by_cases harrives : ∃ call, v = .arrives call
    · obtain ⟨call, rfl⟩ := harrives
      exact Nat.lt_of_lt_of_le (Nat.lt_of_lt_of_eq (Nat.lt_succ_self _) (h.arrive call).symm)
        (length_starts_run (e.arrive call) rest)
    · obtain ⟨idle, outcome, starts⟩ := quiet_step (v := v) h.1 fun call event =>
        absurd ⟨call, event⟩ harrives
      have still : (e.step v).Idle := ⟨idle, outcome.trans h.2⟩
      have hrest : .arrives call ∈ rest := by
        rcases List.mem_cons.1 arrives with event | hrest
        · exact absurd ⟨call, event.symm⟩ harrives
        · exact hrest
      exact starts ▸ ih still hrest

/-! ## The first start that is given up -/

theorem Counted.step_leaves (h : e.Counted given) (gathered : e.Gathered) {task : Nat}
    (running : e.gate.runner = some task) :
    (e.step (.leaves task)).Counted (given + 1) ∧
    (e.step (.leaves task)).gate.runner = e.gate.waiting.head? ∧
    (e.step (.leaves task)).gate.outcome = none := by
  have stands := gathered.atGate_of_running running
  have hstep : e.step (.leaves task) = e.depart task := by simp [Endpoint.step, stands]
  have hgate : (e.depart task).gate = e.gate.leave task := rfl
  have hcounted := h.step gathered (.leaves task)
  simp only [abandoning, running, if_true, List.length_singleton] at hcounted
  refine ⟨hcounted, ?_, ?_⟩
  · rw [hstep, hgate, Gate.leave, if_pos running]
    cases e.gate.waiting <;> rfl
  · rw [hstep, hgate, Gate.leave, if_pos running]
    have hshut := h.gate.shut (by simp [running])
    cases e.gate.waiting <;> exact hshut

/-- Where a start was given up, one was given up first. -/
theorem exists_first_abandonment (h : abandonments e events ≠ []) :
    ∃ before task after, events = before ++ .leaves task :: after ∧
      (e.run before).gate.runner = some task ∧ abandonments e before = [] := by
  induction events generalizing e with
  | nil => exact absurd rfl h
  | cons v rest ih =>
    by_cases hfirst : abandoning e v = []
    · rw [abandonments, record, hfirst] at h
      obtain ⟨before, task, after, rfl, running, none⟩ := ih h
      exact ⟨v :: before, task, after, rfl, running, by rw [abandonments, record, hfirst]; exact none⟩
    · cases v with
      | leaves task =>
        by_cases running : e.gate.runner = some task
        · exact ⟨[], task, rest, rfl, running, rfl⟩
        · simp [abandoning, running] at hfirst
      | arrives | startReturns | invokes | returns | writes | resumes => exact absurd rfl hfirst

/-- A start that is given up is followed by another one if somebody waits or comes later. -/
theorem Counted.restarts (h : e.Counted given) (gathered : e.Gathered) {task : Nat}
    (running : e.gate.runner = some task)
    (another : e.gate.waiting ≠ [] ∨ ∃ call, .arrives call ∈ events) :
    given + 1 < ((e.step (.leaves task)).run events).starts.length := by
  obtain ⟨counted, runner, shut⟩ := h.step_leaves gathered running
  have hlength := counted.length_starts
  rcases hwaiting : e.gate.waiting with _ | ⟨next, rest⟩
  · obtain ⟨call, arrives⟩ := another.resolve_left fun waits => waits hwaiting
    have idle : (e.step (.leaves task)).Idle := ⟨by rw [runner, hwaiting]; rfl, shut⟩
    have hlater := idle.starts_lt_run arrives
    omega
  · have hstanding : (e.step (.leaves task)).gate.standing = 1 := by
      simp [Gate.standing, runner, hwaiting]
    have hlater := length_starts_run (e.step (.leaves task)) events
    omega

/-- If the first start that is given up leaves nobody at the gate, and nobody comes later, then there is
    no other start. -/
theorem Counted.length_starts_of_alone (h : e.Counted 0) (gathered : e.Gathered) {task : Nat}
    (running : e.gate.runner = some task) (nobody : e.gate.waiting = [])
    (unarrived : ∀ call, .arrives call ∉ events) :
    ((e.step (.leaves task)).run events).starts.length = 1 := by
  obtain ⟨counted, runner, shut⟩ := h.step_leaves gathered running
  rw [nobody] at runner
  have hstarts : ((e.step (.leaves task)).run events).starts = (e.step (.leaves task)).starts :=
    quiet_run runner fun call arrives => absurd arrives (unarrived call)
  rw [hstarts, counted.length_starts]
  simp [Gate.standing, Gate.isOpen, runner, shut]

/-- The sandbox is started more than once just if a task that carries out the start goes away while
    others wait, or before somebody comes. -/
theorem started_again_iff (plan : Plan) (sink : Telemetry.Sink) (events : List Event) :
    1 < ((fresh plan sink).run events).starts.length ↔
      ∃ before task after, events = before ++ .leaves task :: after ∧
        ((fresh plan sink).run before).gate.runner = some task ∧
        (((fresh plan sink).run before).gate.waiting ≠ [] ∨ ∃ call, .arrives call ∈ after) := by
  constructor
  · intro twice
    have hlength := (counted_run plan sink events).length_starts
    have hstanding := ((fresh plan sink).run events).gate.standing_le_one
    have given : abandonments (fresh plan sink) events ≠ [] := by
      intro none
      rw [none, List.length_nil] at hlength
      omega
    obtain ⟨before, task, after, rfl, running, none⟩ := exists_first_abandonment given
    refine ⟨before, task, after, rfl, running, ?_⟩
    have hbefore := counted_run plan sink before
    rw [none] at hbefore
    rw [run_append, run_cons] at twice
    by_cases nobody : ((fresh plan sink).run before).gate.waiting = []
    · refine .inr (Classical.byContradiction fun unarrived => ?_)
      have once := hbefore.length_starts_of_alone ((Gathered.fresh plan sink).run before) running
        nobody fun call arrives => unarrived ⟨call, arrives⟩
      omega
    · exact .inl nobody
  · rintro ⟨before, task, after, rfl, running, another⟩
    have hbefore := counted_run plan sink before
    rw [run_append, run_cons]
    have hmore := hbefore.restarts ((Gathered.fresh plan sink).run before) running another
    omega

/-! ## The main result -/

/-- The sandbox is started once for each start that was given up, and once more if a start is under way
    or has returned. So it is started more than once just if a task that carries out the start goes
    away while others wait, or before somebody comes. Once a start has returned, there is no other
    one. -/
theorem starts_counted (plan : Plan) (sink : Telemetry.Sink) (events : List Event) :
    ((fresh plan sink).run events).starts
      = List.replicate ((abandonments (fresh plan sink) events).length
          + ((fresh plan sink).run events).gate.standing) plan.call ∧
    (1 < ((fresh plan sink).run events).starts.length ↔
      ∃ before task after, events = before ++ .leaves task :: after ∧
        ((fresh plan sink).run before).gate.runner = some task ∧
        (((fresh plan sink).run before).gate.waiting ≠ [] ∨ ∃ call, .arrives call ∈ after)) ∧
    (((fresh plan sink).run events).gate.isOpen → ∀ more,
      (((fresh plan sink).run events).run more).starts = ((fresh plan sink).run events).starts) := by
  have counted := counted_run plan sink events
  refine ⟨?_, started_again_iff plan sink events, ?_⟩
  · rw [counted.calls, counted.gate.starts, plan_run]
    rfl
  · intro opened more
    exact quiet_run (counted.gate.runner_of_isOpen opened) fun _ _ => opened

/-- The client whose request carries out the start goes away, and another request comes. -/
def firstClientGone : List Event :=
  [.arrives bareCall, .leaves 0, .arrives bareCall]

/-- The sandbox is started a second time. -/
theorem started_twice_firstClientGone :
    ((fresh plainPlan .unlimited).run firstClientGone).starts
      = [plainPlan.call, plainPlan.call] := by
  decide +kernel

end Endpoint

end FunctionHost
