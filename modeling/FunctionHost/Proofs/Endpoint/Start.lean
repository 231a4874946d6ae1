-- SUMMARY: The sandbox is started once, before every invocation, and one request is told about it.
import FunctionHost.Proofs.Endpoint.Step

/-! # One start before every invocation

As long as nobody goes away before being answered, an endpoint is in one of two conditions. Before
the start of the sandbox returns, everybody is at the gate: the first task carries out the start,
and all others wait in order of arrival. Afterwards the gate is open for good, whether the start
succeeded or failed. Everybody passed it, and only the first task was told about the start. -/

namespace FunctionHost.Endpoint

/-! ## Passing the gate -/

/-- Who passes the gate by an event. The one that carried out the start is told how it ended, and
    the others are told nothing. -/
def passing (e : Endpoint) : Event → List (Nat × Option StartReport)
  | .arrives _ => if e.gate.isOpen then [(e.tasks.length, none)] else []
  | .startReturns failure elapsed =>
    match e.gate.runner with
    | some runner =>
      (runner, some (e.plan.report failure elapsed)) :: e.gate.waiting.map fun task => (task, none)
    | none => []
  | _ => []

/-- Who passed the gate over a run of events, in order. -/
def passages : Endpoint → List Event → List (Nat × Option StartReport) :=
  record passing

/-- A task that has passed the gate and is still there. As long as it does not close, it knows how
    long the start took if it was told. -/
def Stage.HasPassed (told : Option Number.Binary64) : Stage → Prop
  | .atGate => False
  | .ready init => init = told
  | .invoking _ init => init = told
  | .closing .. => True
  | .pausing _ => True
  | .answered _ => True
  | .gone => False

theorem hasPassed_closingStage (lines : List Telemetry.Line) (answer : Http.Response) (pause : Nat)
    (told : Option Number.Binary64) : (closingStage lines answer pause).HasPassed told := by
  simp only [closingStage, afterClosing]
  split
  · split <;> trivial
  · trivial

/-- What a task is told about the start: the first one learns how long it took. -/
def told (report : StartReport) (task : Nat) : Option Number.Binary64 :=
  if task = 0 then some report.duration else none

/-! ## Before and after the start has returned -/

/-- The start of the sandbox has not returned: the first task carries it out, and everybody else
    waits for it. -/
structure Closed (e : Endpoint) : Prop where
  gate : e.gate =
    if e.tasks.length = 0 then .fresh
    else ⟨none, some 0, List.range' 1 (e.tasks.length - 1), 1⟩
  starts : e.starts = if e.tasks.length = 0 then [] else [e.plan.call]
  stages : ∀ task stage, e.stage? task = some stage → stage = .atGate
  invocations : e.invocations = []

/-- The start of the sandbox has returned with some report, and everybody passed the gate. -/
structure Opened (e : Endpoint) (report : StartReport) : Prop where
  gate : e.gate = ⟨some report, none, [], 1⟩
  starts : e.starts = [e.plan.call]
  occupied : 0 < e.tasks.length
  stages : ∀ task stage, e.stage? task = some stage → stage.HasPassed (told report task)

variable {e : Endpoint} {report : StartReport} {v : Event} {events : List Event}

theorem Closed.fresh (plan : Plan) (sink : Telemetry.Sink) : (fresh plan sink).Closed where
  gate := rfl
  starts := rfl
  stages task stage stands := by simp [Endpoint.fresh, stage?] at stands
  invocations := rfl

theorem Closed.isOpen_eq (h : e.Closed) : e.gate.isOpen = false := by
  rw [h.gate]
  split <;> rfl

/-- Whoever comes first carries out the start, and everybody else queues behind those who wait. -/
theorem Closed.gate_enter (h : e.Closed) :
    e.gate.enter e.tasks.length = ⟨none, some 0, List.range' 1 e.tasks.length, 1⟩ := by
  rw [h.gate]
  cases e.tasks.length with
  | zero => rfl
  | succ n => simp [Gate.enter, Gate.entry, Gate.isOpen, List.range'_concat, Nat.add_comm]

theorem Closed.arrive (h : e.Closed) (call : Call) : (e.arrive call).Closed where
  gate := by simp [Endpoint.arrive, withGate, h.gate_enter]
  starts := by
    have hstarts : e.gate.starts = if e.tasks.length = 0 then 0 else 1 := by
      rw [h.gate]
      split <;> rfl
    simp only [Endpoint.arrive, withGate, h.gate_enter, h.starts, hstarts]
    by_cases hempty : e.tasks.length = 0 <;> simp [hempty]
  stages task stage stands := by
    rw [stage?_arrive, h.isOpen_eq] at stands
    split at stands
    · exact (Option.some.inj stands).symm
    · exact h.stages task stage stands
  invocations := h.invocations

theorem Closed.startReturned (h : e.Closed) {runner : Caller}
    (running : e.gate.runner = some runner) (failure : Option String) (elapsed : Time.Span) :
    runner = 0 ∧
    (e.startReturned runner failure elapsed).Opened (e.plan.report failure elapsed) := by
  have occupied : e.tasks.length ≠ 0 := by
    intro hempty
    simp [h.gate, hempty, Gate.fresh] at running
  have hgate := h.gate
  rw [if_neg occupied] at hgate
  obtain rfl : runner = 0 := by simpa [hgate] using running.symm
  refine ⟨rfl, ?_⟩
  constructor
  · rw [startReturned_eq, hgate]
    rfl
  · rw [startReturned_eq]
    simpa [occupied] using h.starts
  · simpa using Nat.pos_of_ne_zero occupied
  · intro task stage stands
    rw [stage?_startReturned] at stands
    obtain ⟨old, hold, rfl⟩ := Option.map_eq_some_iff.1 stands
    have hlt := lt_length_of_stage? hold
    by_cases hfirst : task = 0
    · simp [hfirst, Stage.HasPassed, told]
    · have hwaits : task ∈ e.gate.waiting := by
        simp only [hgate, List.mem_range'_1]
        omega
      simp [hfirst, hwaits, Stage.HasPassed, told]

/-- An event before the start has returned leaves everybody at the gate, unless it is the return. -/
theorem Closed.step (h : e.Closed) (v : Event) (patient : ∀ task, v ≠ .leaves task) :
    (e.step v).Closed ∨ ∃ failure elapsed, v = .startReturns failure elapsed ∧
      e.gate.runner = some 0 ∧ (e.step v).Opened (e.plan.report failure elapsed) := by
  have atGate {task : Nat} {stage : Stage} (stands : e.stage? task = some stage)
      (other : stage ≠ .atGate) : False := other (h.stages task stage stands)
  generalize he : e.step v = e'
  cases he ▸ transition e v with
  | idle => exact .inl h
  | arrives call => exact .inl (h.arrive call)
  | opens runner failure elapsed running =>
    obtain ⟨rfl, opened⟩ := h.startReturned running failure elapsed
    exact .inr ⟨failure, elapsed, rfl, running, opened⟩
  | invokes task id call init found =>
    exact (atGate (stage?_of_found found) (by simp)).elim
  | returns task outcome draft elapsed id init stands => exact (atGate stands (by simp)).elim
  | writes task line rest answer pause stands => exact (atGate stands (by simp)).elim
  | resumes task answer stands => exact (atGate stands (by simp)).elim
  | departs task => exact absurd rfl (patient task)

theorem Opened.arrive (h : e.Opened report) (call : Call) : (e.arrive call).Opened report := by
  have hgate : e.gate.enter e.tasks.length = e.gate := by
    rw [h.gate]
    rfl
  constructor
  · simpa [Endpoint.arrive, withGate, hgate] using h.gate
  · simpa [Endpoint.arrive, withGate, hgate] using h.starts
  · simp [Endpoint.arrive, withGate]
  · intro task stage stands
    rw [stage?_arrive] at stands
    split at stands
    · next hnew =>
      have hlater : task ≠ 0 := hnew ▸ Nat.ne_of_gt h.occupied
      obtain rfl : Stage.ready none = stage := by simpa [h.gate, Gate.isOpen] using stands
      simp [Stage.HasPassed, told, hlater]
    · exact h.stages task stage stands

/-- A task that passed the gate goes on to another stage. -/
theorem Opened.move (h : e.Opened report) {e' : Endpoint} {task : Nat} {stage : Stage}
    (gate : e'.gate = e.gate) (starts : e'.starts = e.starts) (plan : e'.plan = e.plan)
    (tasks : e'.tasks = (e.move task stage).tasks) (passed : stage.HasPassed (told report task)) :
    e'.Opened report where
  gate := gate.trans h.gate
  starts := by rw [starts, h.starts, plan]
  occupied := by simpa [tasks] using h.occupied
  stages other stage' stands := by
    have moved : (e.move task stage).stage? other = some stage' := by
      rwa [stage?, ← tasks]
    rw [stage?_move] at moved
    split at moved
    · next hsame =>
      obtain ⟨_, _, rfl⟩ := Option.map_eq_some_iff.1 moved
      exact hsame ▸ passed
    · exact h.stages other stage' moved

/-- The gate remains open, and nothing is started again. -/
theorem Opened.step (h : e.Opened report) (v : Event) (patient : ∀ task, v ≠ .leaves task) :
    (e.step v).Opened report := by
  generalize he : e.step v = e'
  cases he ▸ transition e v with
  | idle => exact h
  | arrives call => exact h.arrive call
  | opens runner failure elapsed running => simp [h.gate] at running
  | invokes task id call init found =>
    have knows : init = told report task := h.stages task _ (stage?_of_found found)
    exact h.move rfl rfl rfl rfl knows
  | returns => exact h.move rfl rfl rfl rfl (hasPassed_closingStage _ _ _ _)
  | writes => exact h.move rfl rfl rfl rfl (hasPassed_closingStage _ _ _ _)
  | resumes => exact h.move rfl rfl rfl rfl trivial
  | departs task => exact absurd rfl (patient task)

/-! ## Whole runs -/

/-- The passages of a number of tasks in order of arrival, the first of whom is told about the
    start. -/
def allPassed (report : StartReport) (number : Nat) : List (Nat × Option StartReport) :=
  (0, some report) :: (List.range' 1 (number - 1)).map fun task => (task, none)

theorem Closed.passing_return (h : e.Closed) (running : e.gate.runner = some 0)
    (failure : Option String) (elapsed : Time.Span) :
    passing e (.startReturns failure elapsed) =
      allPassed (e.plan.report failure elapsed) e.tasks.length := by
  have hgate := h.gate
  split at hgate
  · simp [hgate, Gate.fresh] at running
  · simp [passing, hgate, allPassed]

theorem Closed.passing_eq_nil (h : e.Closed) (still : (e.step v).Closed) : passing e v = [] := by
  cases v with
  | arrives call => simp [passing, h.isOpen_eq]
  | startReturns failure elapsed =>
    cases running : e.gate.runner with
    | none => simp [passing, running]
    | some runner =>
      have hclosed := still.isOpen_eq
      simp [Endpoint.step, running, startReturned_eq, Gate.finish, Gate.isOpen] at hclosed
  | invokes | returns | writes | resumes | leaves => rfl

theorem Opened.allPassed_step (h : e.Opened report) (v : Event) :
    allPassed report e.tasks.length ++ passing e v = allPassed report (e.step v).tasks.length := by
  by_cases arrived : ∃ call, v = .arrives call
  · obtain ⟨call, rfl⟩ := arrived
    obtain ⟨n, hn⟩ := Nat.exists_eq_succ_of_ne_zero (Nat.ne_of_gt h.occupied)
    simp [passing, h.gate, Gate.isOpen, Endpoint.step, Endpoint.arrive, withGate, allPassed, hn,
      List.range'_concat, Nat.add_comm]
  · have hlength := (transition e v).length (not_exists.1 arrived)
    have hnobody : passing e v = [] := by
      cases v with
      | arrives call => exact absurd ⟨call, rfl⟩ arrived
      | startReturns failure elapsed => simp [passing, h.gate]
      | invokes | returns | writes | resumes | leaves => rfl
    rw [hlength, hnobody, List.append_nil]

/-- If nobody goes away by some events, then nobody does so by the first one or by the others. -/
theorem patient_cons (patient : ∀ task, Event.leaves task ∉ v :: events) :
    (∀ task, v ≠ .leaves task) ∧ ∀ task, Event.leaves task ∉ events := by
  constructor
  · rintro task rfl
    exact patient task List.mem_cons_self
  · intro task later
    exact patient task (List.mem_cons_of_mem v later)

theorem Opened.run (h : e.Opened report) (events : List Event)
    (patient : ∀ task, Event.leaves task ∉ events) :
    (e.run events).Opened report ∧
      allPassed report e.tasks.length ++ record passing e events =
        allPassed report (e.run events).tasks.length := by
  induction events generalizing e with
  | nil => exact ⟨h, by simp [record]⟩
  | cons v rest ih =>
    obtain ⟨stays, stayOn⟩ := patient_cons patient
    obtain ⟨later, passed⟩ := ih (h.step v stays) stayOn
    refine ⟨later, ?_⟩
    rw [record, ← List.append_assoc, h.allPassed_step v]
    exact passed

/-- The start of the sandbox returned at some point of a run. Until then everybody was at the gate
    and the first task carried it out, and since then everybody has passed. -/
structure Returned (e : Endpoint) (events before : List Event) (failure : Option String)
    (elapsed : Time.Span) (after : List Event) : Prop where
  split : events = before ++ .startReturns failure elapsed :: after
  closed : (e.run before).Closed
  running : (e.run before).gate.runner = some 0
  nobody : record passing e before = []
  opened : (e.run events).Opened (e.plan.report failure elapsed)
  everybody : record passing e events =
    allPassed (e.plan.report failure elapsed) (e.run events).tasks.length

theorem Closed.run (h : e.Closed) (events : List Event)
    (patient : ∀ task, Event.leaves task ∉ events) :
    ((e.run events).Closed ∧ record passing e events = []) ∨
      ∃ before failure elapsed after, Returned e events before failure elapsed after := by
  induction events generalizing e with
  | nil => exact .inl ⟨h, rfl⟩
  | cons v rest ih =>
    obtain ⟨stays, later⟩ := patient_cons patient
    rcases h.step v stays with still | ⟨failure, elapsed, rfl, running, opened⟩
    · have nobody := h.passing_eq_nil still
      rcases ih still later with ⟨closed, hrest⟩ | ⟨before, failure, elapsed, after, returned⟩
      · exact .inl ⟨closed, by rw [record, nobody, hrest, List.append_nil]⟩
      · have hplan := (transition e v).plan
        refine .inr ⟨v :: before, failure, elapsed, after, ?_⟩
        constructor
        · rw [returned.split, List.cons_append]
        · exact returned.closed
        · exact returned.running
        · rw [record, nobody, returned.nobody, List.append_nil]
        · exact hplan ▸ returned.opened
        · rw [record, nobody, List.nil_append, returned.everybody, hplan, run_cons]
    · have hlength := (transition e (.startReturns failure elapsed)).length (by simp)
      obtain ⟨opened, everybody⟩ := opened.run rest later
      refine .inr ⟨[], failure, elapsed, rest, ?_⟩
      constructor
      · rfl
      · exact h
      · exact running
      · rfl
      · exact opened
      · rw [record, h.passing_return running, ← hlength]
        exact everybody

theorem opens_of_running (running : e.gate.runner.isSome) (failure : Option String)
    (elapsed : Time.Span) : (e.step (.startReturns failure elapsed)).gate.isOpen := by
  obtain ⟨runner, hrunner⟩ := Option.isSome_iff_exists.1 running
  simp [Endpoint.step, hrunner, startReturned_eq, Gate.finish, Gate.isOpen]

theorem Closed.starts_le_one (h : e.Closed) : e.starts.length ≤ 1 := by
  rw [h.starts]
  split <;> simp

/-- If nobody goes away before being answered, the sandbox is started at most once, and nothing is
    invoked before that start has returned. It opens the gate however it ended, nothing is started
    after it, and of all tasks exactly the one that carried out the start is told about it: how many
    milliseconds it took, at most the time limit, and whether it succeeded. -/
theorem one_start_before_invocations (plan : Plan) (sink : Telemetry.Sink) (events : List Event)
    (patient : ∀ task, Event.leaves task ∉ events) :
    let initial := fresh plan sink
    let e := initial.run events
    -- Either nobody has passed the gate yet, ...
    (passages initial events = [] ∧ e.invocations = [] ∧ e.starts.length ≤ 1 ∧
      ∀ failure elapsed, e.gate.runner.isSome →
        (e.step (.startReturns failure elapsed)).gate.isOpen) ∨
    -- ... or the start returned at some point, ...
    ∃ before failure elapsed after report,
      events = before ++ .startReturns failure elapsed :: after ∧
      -- ... having taken this long, and having failed or succeeded, ...
      report.duration = elapsed.clampedMillis plan.settings.timeout ∧
      report.succeeded = failure.isNone ∧
      -- ... up to which it had been called for once, nobody had passed and nothing was invoked, ...
      (initial.run before).starts = [plan.call] ∧
      (initial.run before).gate.runner = some 0 ∧
      (initial.run before).invocations = [] ∧
      passages initial before = [] ∧
      -- ... and since then everybody has passed, but only the first task was told about it, ...
      passages initial events = allPassed report e.tasks.length ∧
      (∀ task stage, e.stage? task = some stage → stage.HasPassed (told report task)) ∧
      e.starts = [plan.call] ∧
      e.gate.outcome = some report ∧
      -- ... and this is how it stays.
      ∀ more, (∀ task, Event.leaves task ∉ more) →
        (e.run more).starts = e.starts ∧ (e.run more).gate = e.gate := by
  intro initial e
  have hplan (events : List Event) : (initial.run events).plan = plan := plan_run initial events
  rcases (Closed.fresh plan sink).run events patient with
    ⟨closed, nobody⟩ | ⟨before, failure, elapsed, after, returned⟩
  · exact .inl ⟨nobody, closed.invocations, closed.starts_le_one,
      fun failure elapsed running => opens_of_running running failure elapsed⟩
  · have occupied : (initial.run before).tasks.length ≠ 0 := by
      intro hempty
      have hgate := returned.closed.gate
      rw [if_pos hempty] at hgate
      have running := returned.running
      rw [hgate] at running
      cases running
    have once : (initial.run before).starts = [plan.call] := by
      rw [returned.closed.starts, if_neg occupied, hplan]
    have duration : (plan.report failure elapsed).duration =
        elapsed.clampedMillis plan.settings.timeout := by
      rw [Plan.report]
    refine .inr ⟨before, failure, elapsed, after, plan.report failure elapsed, returned.split,
      duration, rfl, once, returned.running, returned.closed.invocations, returned.nobody,
      returned.everybody, returned.opened.stages, ?_, ?_, ?_⟩
    · rw [returned.opened.starts, hplan]
    · rw [returned.opened.gate]
      rfl
    · intro more still
      have later := (returned.opened.run more still).1
      exact ⟨by rw [later.starts, returned.opened.starts, plan_run],
        by rw [later.gate, returned.opened.gate]⟩

/-- A plan with nothing but defaults. -/
def plainPlan : Plan :=
  ⟨.default, .default, default⟩

/-- A request without header fields and without a payload. -/
def bareCall : Call :=
  ⟨.empty, []⟩

/-- Three requests, of which the second one is served although the start failed. -/
def lateComer : List Event :=
  [ .arrives bareCall, .arrives bareCall, .startReturns (some "boom") (.ofSeconds 1),
    .arrives bareCall, .invokes 1 "b" ]

/-- The first request is told that the start took 1000 ms and failed, and the others are told
    nothing. -/
theorem one_start_before_invocations_lateComer :
    (∀ task, Event.leaves task ∉ lateComer) ∧
    ((fresh plainPlan .unlimited).run lateComer).invocations.map (·.id) = ["b"] ∧
    ((fresh plainPlan .unlimited).run lateComer).starts = [plainPlan.call] ∧
    passages (fresh plainPlan .unlimited) lateComer = allPassed ⟨.ofNat 1000, false⟩ 3 ∧
    ((fresh plainPlan .unlimited).run lateComer).gate.outcome = some ⟨.ofNat 1000, false⟩ := by
  have patient : ∀ task, Event.leaves task ∉ lateComer := by simp [lateComer]
  refine ⟨patient, rfl, ?_⟩
  rcases one_start_before_invocations plainPlan .unlimited lateComer patient with
    ⟨nobody, _⟩ | ⟨_, failure, elapsed, _, ⟨millis, flag⟩, split, duration, succeeded, _, _, _, _,
      everybody, _, starts, outcome, _⟩
  · exact absurd nobody (List.cons_ne_nil _ _)
  · have returns : .startReturns failure elapsed ∈ lateComer := by
      rw [split]
      exact List.mem_append_right _ List.mem_cons_self
    obtain ⟨rfl, rfl⟩ : failure = some "boom" ∧ elapsed = .ofSeconds 1 := by
      simpa [lateComer] using returns
    have second :
        (Time.Span.ofSeconds 1).clampedMillis plainPlan.settings.timeout = .ofNat 1000 := by
      decide +kernel
    have report : StartReport.mk millis flag = ⟨.ofNat 1000, false⟩ := by
      rw [StartReport.mk.injEq]
      exact ⟨duration.trans second, succeeded⟩
    exact ⟨starts, report ▸ everybody, report ▸ outcome⟩

end FunctionHost.Endpoint
