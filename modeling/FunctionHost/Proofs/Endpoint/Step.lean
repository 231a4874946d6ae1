-- SUMMARY: What each event does at an endpoint, and what is recorded over a run of events.
import FunctionHost.Endpoint.Basic

/-! # Events at an endpoint

An event finds a task at the stage that it is about, or it changes nothing. Here this is said once
for every event, together with what the event leaves as it was. Later proofs look at the cases of
`Transition` and never at the step itself. -/

namespace FunctionHost.Endpoint

variable {e : Endpoint} {task other : Nat} {stage : Stage}

/-! ## Moving tasks -/

theorem stage?_move (e : Endpoint) (task : Nat) (stage : Stage) (other : Nat) :
    (e.move task stage).stage? other =
      if other = task then (e.stage? other).map fun _ => stage else e.stage? other := by
  simp only [stage?, move, List.getElem?_modify, eq_comm (a := other)]
  split
  · simp [Option.map_map, Function.comp_def]
  · simp

theorem stage?_move_same (h : (e.stage? task).isSome) :
    (e.move task stage).stage? task = some stage := by
  obtain ⟨old, hold⟩ := Option.isSome_iff_exists.1 h
  simp [stage?_move, hold]

theorem stage?_move_other (h : other ≠ task) :
    (e.move task stage).stage? other = e.stage? other := by
  simp [stage?_move, h]

@[simp] theorem length_move : (e.move task stage).tasks.length = e.tasks.length := by
  simp [move]

theorem stage?_eq_none_iff : e.stage? task = none ↔ e.tasks.length ≤ task := by
  simp [stage?]

theorem lt_length_of_stage? (h : e.stage? task = some stage) : task < e.tasks.length := by
  rw [← Nat.not_le, ← stage?_eq_none_iff, h]
  simp

theorem stage?_of_found {t : Task} (h : e.tasks[task]? = some t) :
    e.stage? task = some t.stage := by
  simp [stage?, h]

/-- Several tasks move to one stage. -/
def moveAll (e : Endpoint) (tasks : List Nat) (stage : Stage) : Endpoint :=
  tasks.foldl (fun e task => e.move task stage) e

theorem moveAll_eq (e : Endpoint) (tasks : List Nat) (stage : Stage) :
    e.moveAll tasks stage = { e with tasks := (e.moveAll tasks stage).tasks } := by
  induction tasks generalizing e with
  | nil => rfl
  | cons task rest ih => exact ih (e.move task stage)

@[simp] theorem length_moveAll (e : Endpoint) (tasks : List Nat) (stage : Stage) :
    (e.moveAll tasks stage).tasks.length = e.tasks.length := by
  induction tasks generalizing e with
  | nil => rfl
  | cons task rest ih => exact (ih (e.move task stage)).trans length_move

theorem stage?_moveAll (e : Endpoint) (tasks : List Nat) (stage : Stage) (other : Nat) :
    (e.moveAll tasks stage).stage? other =
      if other ∈ tasks then (e.stage? other).map fun _ => stage else e.stage? other := by
  induction tasks generalizing e with
  | nil => rfl
  | cons task rest ih =>
    refine (ih (e.move task stage)).trans ?_
    rw [stage?_move]
    by_cases hsame : other = task
    · simp [hsame, Function.comp_def]
    · simp [hsame]

/-! ## Single events -/

/-- An event finds what it is about: a start that is under way, or a task at the right stage. -/
def Applies (e : Endpoint) : Event → Prop
  | .arrives _ => True
  | .startReturns _ _ => e.gate.runner.isSome
  | .invokes task _ => ∃ init, e.stage? task = some (.ready init)
  | .returns task _ _ _ => ∃ id init, e.stage? task = some (.invoking id init)
  | .writes task =>
    ∃ line rest answer pause, e.stage? task = some (.closing (line :: rest) answer pause)
  | .resumes task => ∃ answer, e.stage? task = some (.pausing answer)
  | .leaves task => ∃ stage, e.stage? task = some stage ∧ ∀ answer, stage ≠ .answered answer

/-- What an event does, if it finds what it is about. Otherwise nothing happens. -/
inductive Transition (e : Endpoint) : Event → Endpoint → Prop where
  | idle (v : Event) (lost : ¬ e.Applies v) : Transition e v e
  | arrives (call : Call) : Transition e (.arrives call) (e.arrive call)
  | opens (runner : Caller) (failure : Option String) (elapsed : Time.Span)
      (running : e.gate.runner = some runner) :
      Transition e (.startReturns failure elapsed) (e.startReturned runner failure elapsed)
  | invokes (task : Nat) (id : String) (call : Call) (init : Option Number.Binary64)
      (found : e.tasks[task]? = some ⟨call, .ready init⟩) :
      Transition e (.invokes task id) (e.invoke task call init id)
  | returns (task : Nat) (outcome : Outcome) (draft : Draft) (elapsed : Time.Span) (id : String)
      (init : Option Number.Binary64) (stands : e.stage? task = some (.invoking id init)) :
      Transition e (.returns task outcome draft elapsed)
        (e.returned task id init outcome draft elapsed)
  | writes (task : Nat) (line : Telemetry.Line) (rest : List Telemetry.Line)
      (answer : Http.Response) (pause : Nat)
      (stands : e.stage? task = some (.closing (line :: rest) answer pause)) :
      Transition e (.writes task) ((e.writing line).move task (closingStage rest answer pause))
  | resumes (task : Nat) (answer : Http.Response)
      (stands : e.stage? task = some (.pausing answer)) :
      Transition e (.resumes task) (e.move task (.answered answer))
  | departs (task : Nat) (stage : Stage) (stands : e.stage? task = some stage)
      (unanswered : ∀ answer, stage ≠ .answered answer) :
      Transition e (.leaves task) (e.depart task)

theorem transition (e : Endpoint) (v : Event) : Transition e v (e.step v) := by
  cases v with
  | arrives call => exact .arrives call
  | startReturns failure elapsed =>
    simp only [step]
    split
    · next runner running => exact .opens runner failure elapsed running
    · next idle => exact .idle _ (by simp [Applies, idle])
  | invokes task id =>
    simp only [step]
    split
    · next call init found => exact .invokes task id call init found
    · next other =>
      refine .idle _ ?_
      rintro ⟨init, stands⟩
      obtain ⟨⟨call, _⟩, found, rfl⟩ := Option.map_eq_some_iff.1 stands
      exact other call init found
  | returns task outcome draft elapsed =>
    simp only [step]
    split
    · next id init stands => exact .returns task outcome draft elapsed id init stands
    · next other =>
      refine .idle _ ?_
      rintro ⟨id, init, stands⟩
      exact other id init stands
  | writes task =>
    simp only [step]
    split
    · next line rest answer pause stands => exact .writes task line rest answer pause stands
    · next other =>
      refine .idle _ ?_
      rintro ⟨line, rest, answer, pause, stands⟩
      exact other line rest answer pause stands
  | resumes task =>
    simp only [step]
    split
    · next answer stands => exact .resumes task answer stands
    · next other =>
      refine .idle _ ?_
      rintro ⟨answer, stands⟩
      exact other answer stands
  | leaves task =>
    simp only [step]
    split
    · next answer stands =>
      refine .idle _ ?_
      rintro ⟨stage, found, unanswered⟩
      exact unanswered answer (Option.some.inj (found.symm.trans stands))
    · next stage unanswered stands =>
      refine .departs task stage stands ?_
      rintro answer rfl
      exact unanswered answer rfl
    · next absent =>
      refine .idle _ ?_
      rintro ⟨stage, found, _⟩
      simp [absent] at found

/-! ## What an event leaves as it was -/

/-- An event that does not find what it is about changes nothing. -/
theorem step_of_idle {v : Event} (lost : ¬ e.Applies v) : e.step v = e := by
  have h := transition e v
  generalize e.step v = e' at h ⊢
  cases h with
  | idle => rfl
  | arrives => exact absurd trivial lost
  | opens runner _ _ running => exact absurd (by simp [Applies, running]) lost
  | invokes _ _ _ init found => exact absurd ⟨init, stage?_of_found found⟩ lost
  | returns _ _ _ _ id init stands => exact absurd ⟨id, init, stands⟩ lost
  | writes _ line rest answer pause stands => exact absurd ⟨line, rest, answer, pause, stands⟩ lost
  | resumes _ answer stands => exact absurd ⟨answer, stands⟩ lost
  | departs _ stage stands unanswered => exact absurd ⟨stage, stands, unanswered⟩ lost

theorem startReturned_eq (e : Endpoint) (runner : Caller) (failure : Option String)
    (elapsed : Time.Span) :
    e.startReturned runner failure elapsed =
      { e with
        tasks := ((e.moveAll e.gate.waiting (.ready none)).move runner
          (.ready (some (e.plan.report failure elapsed).duration))).tasks
        gate := e.gate.finish (e.plan.report failure elapsed)
        log := e.log ++ Plan.logged failure } := by
  have hmoved := moveAll_eq e e.gate.waiting (.ready none)
  simp only [moveAll] at hmoved ⊢
  simp only [startReturned]
  rw [hmoved]
  rfl

theorem stage?_startReturned (e : Endpoint) (runner : Caller) (failure : Option String)
    (elapsed : Time.Span) (other : Nat) :
    (e.startReturned runner failure elapsed).stage? other =
      (e.stage? other).map fun stage =>
        if other = runner then .ready (some (e.plan.report failure elapsed).duration)
        else if other ∈ e.gate.waiting then .ready none else stage := by
  have hmoved : (e.startReturned runner failure elapsed).stage? other =
      ((e.moveAll e.gate.waiting (.ready none)).move runner
        (.ready (some (e.plan.report failure elapsed).duration))).stage? other := rfl
  rw [hmoved, stage?_move, stage?_moveAll]
  cases e.stage? other with
  | none => simp
  | some stage =>
    by_cases hrunner : other = runner
    · by_cases hwaits : runner ∈ e.gate.waiting <;> simp [hrunner, hwaits]
    · by_cases hwaits : other ∈ e.gate.waiting <;> simp [hrunner, hwaits]

@[simp] theorem length_startReturned (e : Endpoint) (runner : Caller) (failure : Option String)
    (elapsed : Time.Span) :
    (e.startReturned runner failure elapsed).tasks.length = e.tasks.length :=
  length_move.trans (length_moveAll e e.gate.waiting (.ready none))

theorem stage?_arrive (e : Endpoint) (call : Call) (other : Nat) :
    (e.arrive call).stage? other =
      if other = e.tasks.length then some (if e.gate.isOpen then .ready none else .atGate)
      else e.stage? other := by
  simp only [stage?, arrive, withGate, List.getElem?_append, List.getElem?_singleton]
  by_cases hnew : other = e.tasks.length
  · simp [hnew]
  · by_cases hold : other < e.tasks.length
    · simp [hnew, hold]
    · simp [hnew, hold, show other - e.tasks.length ≠ 0 by omega]

theorem Transition.plan {v : Event} {e' : Endpoint} (h : Transition e v e') : e'.plan = e.plan := by
  cases h with
  | opens runner failure elapsed => rw [startReturned_eq]
  | idle | arrives | invokes | returns | writes | resumes | departs => rfl

/-- Tasks only come by arriving. -/
theorem Transition.length {v : Event} {e' : Endpoint} (h : Transition e v e')
    (arrived : ∀ call, v ≠ .arrives call) : e'.tasks.length = e.tasks.length := by
  cases h with
  | idle => rfl
  | arrives call => exact absurd rfl (arrived call)
  | opens runner failure elapsed => exact length_startReturned e runner failure elapsed
  | invokes | returns | writes | resumes | departs => exact length_move

/-! ## Runs -/

@[simp] theorem run_nil (e : Endpoint) : e.run [] = e := rfl

@[simp] theorem run_cons (e : Endpoint) (v : Event) (events : List Event) :
    e.run (v :: events) = (e.step v).run events := rfl

theorem plan_run (e : Endpoint) (events : List Event) : (e.run events).plan = e.plan := by
  induction events generalizing e with
  | nil => rfl
  | cons v rest ih => exact (ih (e.step v)).trans (transition e v).plan

/-! ## Records -/

/-- What is recorded over a run of events, given what is recorded of a single one. -/
def record {α : Type} (single : Endpoint → Event → List α) (e : Endpoint) : List Event → List α
  | [] => []
  | v :: rest => single e v ++ record single (e.step v) rest

theorem record_append {α : Type} (single : Endpoint → Event → List α) (e : Endpoint)
    (before after : List Event) :
    record single e (before ++ after) =
      record single e before ++ record single (e.run before) after := by
  induction before generalizing e with
  | nil => rfl
  | cons v rest ih => simp [record, ih]

end FunctionHost.Endpoint
