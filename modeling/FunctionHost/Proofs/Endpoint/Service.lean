-- SUMMARY: What a task hands to the sandbox and what it is answered with, step by step and over whole runs.
import FunctionHost.Proofs.Endpoint.Journal
import FunctionHost.Proofs.Schedule

/-! # The service of one task

A task that stays goes from stage to stage, one for each of its own events, and nothing that others
do moves it, except that the return of the start lets it pass the gate. On its way it hands one
invocation to the sandbox, and the sandbox returns to it once. The answer is made from what the
sandbox returned with. -/

namespace FunctionHost.Endpoint

variable {e : Endpoint} {v : Event} {events : List Event} {task : Nat} {call : Call} {stage : Stage}

/-! ## What is recorded -/

/-- The invocation that a task hands to the sandbox by an event. -/
def handed (e : Endpoint) : Event → List (Nat × Invocation)
  | .invokes task id =>
    match e.tasks[task]? with
    | some ⟨call, .ready _⟩ =>
      [(task, Invocation.ofRequest e.plan.settings id call.headers call.payload)]
    | _ => []
  | _ => []

/-- The outcome and the draft with which the sandbox returns to a task by an event. -/
def resulting (e : Endpoint) : Event → List (Nat × (Outcome × Draft))
  | .returns task outcome draft _ =>
    match e.stage? task with
    | some (.invoking _ _) => [(task, (outcome, draft))]
    | _ => []
  | _ => []

theorem handed_of_idle (lost : ¬ e.Applies v) : handed e v = [] := by
  cases v with
  | invokes task id =>
    simp only [handed]
    split
    · next call init found => exact absurd ⟨init, stage?_of_found found⟩ lost
    · rfl
  | arrives | startReturns | returns | writes | resumes | leaves => rfl

theorem resulting_of_idle (lost : ¬ e.Applies v) : resulting e v = [] := by
  cases v with
  | returns task outcome draft elapsed =>
    simp only [resulting]
    split
    · next id init stands => exact absurd ⟨id, init, stands⟩ lost
    · rfl
  | arrives | startReturns | invokes | writes | resumes | leaves => rfl

theorem handed_step (e : Endpoint) (v : Event) :
    (e.step v).invocations = e.invocations ++ (handed e v).map (·.2) := by
  generalize he : e.step v = e'
  cases he ▸ transition e v with
  | idle v lost => simp [handed_of_idle lost]
  | arrives call => simp [handed, arrive, withGate]
  | opens runner failure elapsed running => simp [handed, startReturned_eq]
  | invokes task id call init found => simp [handed, found, invoke, writing, move, logging]
  | returns | writes | resumes | departs =>
    simp [handed, returned, writing, depart, move, logging, withGate]

/-- The sandbox gets exactly the invocations that tasks hand to it. -/
theorem handed_run (e : Endpoint) (events : List Event) :
    (e.run events).invocations = e.invocations ++ (record handed e events).map (·.2) := by
  induction events generalizing e with
  | nil => simp [record]
  | cons v rest ih =>
    rw [run_cons, ih, handed_step]
    simp [record]

/-- What is recorded of a run is what the endpoint shows of it. The sandbox got the invocations that
    tasks handed over, and the sink the lines that tasks wrote, both in this order. With room for
    everything, the sink holds all of these lines. -/
structure RecordShown (e : Endpoint) (events : List Event) : Prop where
  invocations : (e.run events).invocations = e.invocations ++ (record handed e events).map (·.2)
  sink : (e.run events).sink = (e.sink.writeAll ((journal e events).map (·.2))).1
  written : e.sink.capacity = none → (e.run events).sink.written =
    e.sink.written ++ (journal e events).flatMap fun entry => Telemetry.Sink.lineBytes entry.2

theorem recordShown (e : Endpoint) (events : List Event) : RecordShown e events where
  invocations := handed_run e events
  sink := sink_run e events
  written unlimited := written_run unlimited events

theorem invoked_eq_handed (e : Endpoint) (v : Event) :
    invoked e v = (handed e v).map fun entry => (entry.1, entry.2.id) := by
  cases v with
  | invokes task id =>
    cases hfound : e.tasks[task]? with
    | none => simp [invoked, handed, stage?, hfound]
    | some t =>
      obtain ⟨call, stage⟩ := t
      cases stage <;> simp [invoked, handed, stage?, hfound, Invocation.ofRequest]
  | arrives | startReturns | returns | writes | resumes | leaves => rfl

theorem record_invoked (e : Endpoint) (events : List Event) :
    record invoked e events =
      (record handed e events).map fun entry => (entry.1, entry.2.id) := by
  induction events generalizing e with
  | nil => rfl
  | cons v rest ih => simp [record, ih, invoked_eq_handed]

/-! ## What a task was called with -/

/-- What a task was called with, if there is such a task. -/
def call? (e : Endpoint) (task : Nat) : Option Call :=
  e.tasks[task]?.map Task.call

theorem found_of_call? (hcall : e.call? task = some call) (stands : e.stage? task = some stage) :
    e.tasks[task]? = some ⟨call, stage⟩ := by
  obtain ⟨t, hfound, rfl⟩ := Option.map_eq_some_iff.1 hcall
  rw [stage?, hfound] at stands
  cases stands
  exact hfound

theorem call?_move (e : Endpoint) (task : Nat) (stage : Stage) (other : Nat) :
    (e.move task stage).call? other = e.call? other := by
  simp only [call?, move, List.getElem?_modify]
  split <;> simp [Option.map_map, Function.comp_def]

theorem call?_moveAll (e : Endpoint) (tasks : List Nat) (stage : Stage) (other : Nat) :
    (e.moveAll tasks stage).call? other = e.call? other := by
  induction tasks generalizing e with
  | nil => rfl
  | cons task rest ih => exact (ih (e.move task stage)).trans (call?_move e task stage other)

/-- What a task was called with never changes. -/
theorem call?_step (h : e.call? task = some call) (v : Event) :
    (e.step v).call? task = some call := by
  generalize he : e.step v = e'
  cases he ▸ transition e v with
  | idle => exact h
  | arrives last =>
    obtain ⟨t, hfound, _⟩ := Option.map_eq_some_iff.1 h
    have hlt : task < e.tasks.length := (List.getElem?_eq_some_iff.1 hfound).1
    simpa [call?, arrive, withGate, List.getElem?_append_left hlt] using h
  | opens runner failure elapsed running =>
    have hcall : (e.startReturned runner failure elapsed).call? task =
        ((e.moveAll e.gate.waiting (.ready none)).move runner
          (.ready (some (e.plan.report failure elapsed).duration))).call? task := rfl
    rw [hcall, call?_move, call?_moveAll, h]
  | invokes | returns | writes | resumes | departs => exact (call?_move _ _ _ _).trans h

/-! ## One step of one task -/

/-- The event that takes a task on from a stage. -/
def Stage.Awaits (task : Nat) : Stage → Event → Prop
  | .atGate, .startReturns _ _ => True
  | .ready _, .invokes other _ => other = task
  | .invoking _ _, .returns other _ _ _ => other = task
  | .closing (_ :: _) _ _, .writes other => other = task
  | .pausing _, .resumes other => other = task
  | _, _ => False

/-- Whether an event is about a task, or is the return of the start. -/
def Event.Concerns (task : Nat) : Event → Prop
  | .startReturns _ _ => True
  | .invokes other _ => other = task
  | .returns other _ _ _ => other = task
  | .writes other => other = task
  | .resumes other => other = task
  | .arrives _ => False
  | .leaves _ => False

theorem Stage.Awaits.concerns (h : stage.Awaits task v) : v.Concerns task := by
  unfold Stage.Awaits at h
  split at h
  · trivial
  · exact h
  · exact h
  · exact h
  · exact h
  · exact h.elim

theorem Stage.Awaits.eq_atGate {failure : Option String} {elapsed : Time.Span}
    (h : stage.Awaits task (.startReturns failure elapsed)) : stage = .atGate := by
  unfold Stage.Awaits at h
  split at h <;> simp_all

/-- Where an event takes a task that stays, what the task hands to the sandbox by it, and with what
    the sandbox returns to it. -/
inductive Moves (e : Endpoint) (task : Nat) (call : Call) :
    Event → Stage → Stage → List Invocation → List (Outcome × Draft) → Prop where
  | rests (v : Event) (stage : Stage) (other : ¬ stage.Awaits task v) :
      Moves e task call v stage stage [] []
  | passes (failure : Option String) (elapsed : Time.Span) (init : Option Number.Binary64) :
      Moves e task call (.startReturns failure elapsed) .atGate (.ready init) [] []
  | invokes (id : String) (init : Option Number.Binary64) :
      Moves e task call (.invokes task id) (.ready init) (.invoking id init)
        [Invocation.ofRequest e.plan.settings id call.headers call.payload] []
  | returns (outcome : Outcome) (draft : Draft) (elapsed : Time.Span) (id : String)
      (init : Option Number.Binary64) (lines : List Telemetry.Line) (few : lines.length ≤ 2) :
      Moves e task call (.returns task outcome draft elapsed) (.invoking id init)
        (closingStage lines ((Disposition.of outcome).answer e.plan.settings.timeoutSeconds draft)
          (Disposition.of outcome).pause) [] [(outcome, draft)]
  | writes (line : Telemetry.Line) (rest : List Telemetry.Line) (answer : Http.Response)
      (pause : Nat) :
      Moves e task call (.writes task) (.closing (line :: rest) answer pause)
        (closingStage rest answer pause) [] []
  | resumes (answer : Http.Response) :
      Moves e task call (.resumes task) (.pausing answer) (.answered answer) [] []

/-- Whoever stands at the gate is one of those that pass it when the start returns. -/
theorem Gathered.gathers (h : e.Gathered) (stands : e.stage? task = some .atGate) :
    e.gate.runner = some task ∨ task ∈ e.gate.waiting := by
  have hmem := (h.atGate task).2 stands
  rw [gathering] at hmem
  exact (List.mem_append.1 hmem).imp_left Option.mem_toList.1

theorem Gathered.applies (h : e.Gathered) (stands : e.stage? task = some stage)
    (awaits : stage.Awaits task v) : e.Applies v := by
  unfold Stage.Awaits at awaits
  split at awaits
  · refine Option.isSome_iff_ne_none.2 fun hnone => ?_
    have hmem := (h.atGate task).2 stands
    rw [h.led hnone] at hmem
    cases hmem
  · exact awaits ▸ ⟨_, stands⟩
  · exact awaits ▸ ⟨_, _, stands⟩
  · exact awaits ▸ ⟨_, _, _, _, stands⟩
  · exact awaits ▸ ⟨_, stands⟩
  · exact awaits.elim

/-- Everybody at the gate passes it when the start returns. -/
theorem Gathered.stage?_passing (h : e.Gathered) (stands : e.stage? task = some .atGate)
    {runner : Caller} (running : e.gate.runner = some runner) (failure : Option String)
    (elapsed : Time.Span) :
    ∃ init, (e.startReturned runner failure elapsed).stage? task = some (.ready init) := by
  rw [stage?_startReturned, stands]
  rcases h.gathers stands with hrunner | hwaits
  · obtain rfl : runner = task := Option.some.inj (running.symm.trans hrunner)
    exact ⟨_, by rw [Option.map_some, if_pos rfl]⟩
  · by_cases hsame : task = runner
    · exact ⟨_, by rw [Option.map_some, if_pos hsame]⟩
    · exact ⟨_, by rw [Option.map_some, if_neg hsame, if_pos hwaits]⟩

/-- What an event does to a task that stays. -/
theorem Gathered.moves (h : e.Gathered) (hcall : e.call? task = some call)
    (stands : e.stage? task = some stage) (stays : v ≠ .leaves task) :
    ∃ next, (e.step v).stage? task = some next ∧
      Moves e task call v stage next (own task (handed e v)) (own task (resulting e v)) := by
  generalize he : e.step v = e'
  cases he ▸ transition e v with
  | idle v lost =>
    rw [handed_of_idle lost, resulting_of_idle lost]
    exact ⟨stage, stands, .rests v stage (mt (h.applies stands) lost)⟩
  | arrives last =>
    refine ⟨stage, ?_, .rests _ stage (mt Stage.Awaits.concerns id)⟩
    rw [stage?_arrive, if_neg (Nat.ne_of_lt (lt_length_of_stage? stands)), stands]
  | opens runner failure elapsed running =>
    by_cases hgate : stage = .atGate
    · subst hgate
      obtain ⟨init, hpassed⟩ := h.stage?_passing stands running failure elapsed
      exact ⟨.ready init, hpassed, .passes failure elapsed init⟩
    · have hrunner : task ≠ runner := by
        rintro rfl
        exact hgate (Option.some.inj (stands.symm.trans (h.atGate_of_running running)))
      have hwaits : task ∉ e.gate.waiting := fun hmem =>
        hgate (Option.some.inj (stands.symm.trans (h.atGate_of_waiting hmem)))
      refine ⟨stage, ?_, .rests _ stage (mt Stage.Awaits.eq_atGate hgate)⟩
      rw [stage?_startReturned, stands, Option.map_some, if_neg hrunner, if_neg hwaits]
  | invokes mover id call' init found =>
    by_cases hsame : task = mover
    · subst hsame
      cases found.symm.trans (found_of_call? hcall stands)
      refine ⟨.invoking id init, stage?_move_same (by simp [stage?, writing, logging, found]), ?_⟩
      simp only [handed, found, resulting, own_single_same, own_nil]
      exact .invokes id init
    · refine ⟨stage, (stage?_move_other hsame).trans stands, ?_⟩
      simp only [handed, found, resulting, own_single_other hsame, own_nil]
      exact .rests _ stage (mt Stage.Awaits.concerns (Ne.symm hsame))
  | returns mover outcome draft elapsed id init found =>
    by_cases hsame : task = mover
    · subst hsame
      cases found.symm.trans stands
      refine ⟨_, stage?_move_same (by simp [found]), ?_⟩
      simp only [handed, found, resulting, own_single_same, own_nil]
      refine .returns outcome draft elapsed id init _ ?_
      split
      · exact Nat.le_refl 2
      · exact Nat.zero_le 2
    · refine ⟨stage, (stage?_move_other hsame).trans stands, ?_⟩
      simp only [handed, found, resulting, own_single_other hsame, own_nil]
      exact .rests _ stage (mt Stage.Awaits.concerns (Ne.symm hsame))
  | writes mover line rest answer pause found =>
    by_cases hsame : task = mover
    · subst hsame
      cases found.symm.trans stands
      have present : ((e.writing line).stage? task).isSome := Option.isSome_of_mem found
      exact ⟨_, stage?_move_same present, .writes line rest answer pause⟩
    · exact ⟨stage, (stage?_move_other hsame).trans stands,
        .rests _ stage (mt Stage.Awaits.concerns (Ne.symm hsame))⟩
  | resumes mover answer found =>
    by_cases hsame : task = mover
    · subst hsame
      cases found.symm.trans stands
      exact ⟨_, stage?_move_same (by simp [found]), .resumes answer⟩
    · exact ⟨stage, (stage?_move_other hsame).trans stands,
        .rests _ stage (mt Stage.Awaits.concerns (Ne.symm hsame))⟩
  | departs mover old found =>
    have hother : task ≠ mover := by
      rintro rfl
      exact stays rfl
    exact ⟨stage, (stage?_move_other hother).trans stands,
      .rests _ stage (mt Stage.Awaits.concerns id)⟩

/-! ## What a task has done -/

/-- The answer that a task has in hand once the sandbox has returned to it. -/
def Stage.answer? : Stage → Option Http.Response
  | .closing _ answer _ => some answer
  | .pausing answer => some answer
  | .answered answer => some answer
  | _ => none

/-- A task that closes has one line left, or two. -/
def Stage.ClosesSoon : Stage → Prop
  | .closing lines _ _ => lines ≠ [] ∧ lines.length ≤ 2
  | _ => True

/-- What a task has handed to the sandbox, and with what the sandbox has returned to it, at each
    stage. From then on it has the answer in hand that is made from that. -/
inductive Service (settings : Settings) (call : Call) :
    Stage → List Invocation → List (Outcome × Draft) → Prop where
  | atGate : Service settings call .atGate [] []
  | ready (init : Option Number.Binary64) : Service settings call (.ready init) [] []
  | invoking (id : String) (init : Option Number.Binary64) :
      Service settings call (.invoking id init)
        [Invocation.ofRequest settings id call.headers call.payload] []
  | ending (id : String) (outcome : Outcome) (draft : Draft) (stage : Stage)
      (answer : stage.answer? =
        some ((Disposition.of outcome).answer settings.timeoutSeconds draft))
      (soon : stage.ClosesSoon) :
      Service settings call stage [Invocation.ofRequest settings id call.headers call.payload]
        [(outcome, draft)]

theorem answer?_closingStage (lines : List Telemetry.Line) (answer : Http.Response) (pause : Nat) :
    (closingStage lines answer pause).answer? = some answer := by
  simp only [closingStage, afterClosing]
  split
  · split <;> rfl
  · rfl

theorem closesSoon_closingStage {lines : List Telemetry.Line} (few : lines.length ≤ 2)
    (answer : Http.Response) (pause : Nat) : (closingStage lines answer pause).ClosesSoon := by
  simp only [closingStage, afterClosing]
  split
  · split <;> trivial
  · next hlines => exact ⟨by simpa using hlines, few⟩

variable {settings : Settings} {next : Stage} {invocations handedNow : List Invocation}
  {results resultsNow : List (Outcome × Draft)}

/-- One step of a task takes its service along. -/
theorem Service.step (h : Service e.plan.settings call stage invocations results)
    (moves : Moves e task call v stage next handedNow resultsNow) :
    Service e.plan.settings call next (invocations ++ handedNow) (results ++ resultsNow) := by
  cases moves with
  | rests => simpa using h
  | passes failure elapsed init =>
    cases h with
    | atGate => exact .ready init
    | ending _ _ _ _ answer => cases answer
  | invokes id init =>
    cases h with
    | ready => exact .invoking id init
    | ending _ _ _ _ answer => cases answer
  | returns outcome draft elapsed id init lines few =>
    cases h with
    | invoking =>
      exact .ending id outcome draft _ (answer?_closingStage _ _ _) (closesSoon_closingStage few _ _)
    | ending _ _ _ _ answer => cases answer
  | writes line rest answer pause =>
    cases h with
    | ending id outcome draft _ hanswer soon =>
      have few : rest.length ≤ 2 := Nat.le_of_succ_le soon.2
      rw [List.append_nil, List.append_nil]
      refine .ending id outcome draft _ ?_ (closesSoon_closingStage few _ _)
      rw [answer?_closingStage]
      exact hanswer
  | resumes answer =>
    cases h with
    | ending id outcome draft _ hanswer =>
      rw [List.append_nil, List.append_nil]
      exact .ending id outcome draft _ hanswer trivial

/-- A task is served: it was called with something, and it has done what belongs to its stage. -/
structure Serves (e : Endpoint) (task : Nat) (call : Call) (invocations : List Invocation)
    (results : List (Outcome × Draft)) : Prop where
  called : e.call? task = some call
  service : ∃ stage, e.stage? task = some stage ∧
    Service e.plan.settings call stage invocations results

/-- A request that arrives becomes a task that has done nothing yet. -/
theorem serves_arrive (e : Endpoint) (call : Call) :
    (e.arrive call).Serves e.tasks.length call [] [] where
  called := by simp [call?, arrive, withGate]
  service := by
    refine ⟨_, by rw [stage?_arrive, if_pos rfl], ?_⟩
    split
    · exact .ready none
    · exact .atGate

theorem Serves.step (h : e.Serves task call invocations results) (gathered : e.Gathered)
    (stays : v ≠ .leaves task) :
    (e.step v).Serves task call (invocations ++ own task (handed e v))
      (results ++ own task (resulting e v)) := by
  obtain ⟨stage, stands, service⟩ := h.service
  obtain ⟨next, hnext, moves⟩ := gathered.moves h.called stands stays
  refine ⟨call?_step h.called v, next, hnext, ?_⟩
  rw [(transition e v).plan]
  exact service.step moves

theorem Serves.run (h : e.Serves task call invocations results) (gathered : e.Gathered)
    (stays : .leaves task ∉ events) :
    (e.run events).Serves task call (invocations ++ own task (record handed e events))
      (results ++ own task (record resulting e events)) := by
  induction events generalizing e invocations results with
  | nil => simpa [record] using h
  | cons v rest ih =>
    obtain ⟨hfirst, hrest⟩ := not_or.1 (mt List.mem_cons.2 stays)
    have hlater := ih (h.step gathered (Ne.symm hfirst)) (gathered.step v) hrest
    simpa [record, List.append_assoc] using hlater

/-- Once a task has its answer, it handed over one invocation, the sandbox returned to it once, and
    the answer is made from what it returned with. -/
theorem Serves.of_answer? {answer : Http.Response}
    (h : e.Serves task call invocations results) (answered : e.answer? task = some answer) :
    ∃ id outcome draft,
      invocations = [Invocation.ofRequest e.plan.settings id call.headers call.payload] ∧
      results = [(outcome, draft)] ∧
      answer = (Disposition.of outcome).answer e.plan.settings.timeoutSeconds draft := by
  obtain ⟨stage, stands, service⟩ := h.service
  rw [answer?, stands] at answered
  cases service with
  | atGate | ready | invoking => cases answered
  | ending id outcome draft _ hanswer =>
    refine ⟨id, outcome, draft, rfl, rfl, ?_⟩
    split at answered
    · next given heq =>
      cases heq
      cases answered
      exact Option.some.inj hanswer
    · cases answered

/-! ## Taking one's steps -/

/-- How many of its steps a task has taken, of six. -/
def Stage.progress : Stage → Nat
  | .atGate => 0
  | .ready _ => 1
  | .invoking _ _ => 2
  | .closing lines _ _ => 5 - lines.length
  | .pausing _ => 5
  | .answered _ => 6
  | .gone => 6

/-- How many of its steps a task has taken, if there is such a task. -/
def progress (e : Endpoint) (task : Nat) : Nat :=
  (e.stage? task).elim 0 Stage.progress

/-- What the world decides about a task: how the start ends, the id of the invocation, and how the
    sandbox returns from it. -/
structure Course where
  failure : Option String
  starting : Time.Span
  id : String
  outcome : Outcome
  draft : Draft
  elapsed : Time.Span

/-- The steps that a task takes in order to be answered. The first is the return of the start. Some
    may find nothing left to do, because not every task has closing lines and a pause. -/
def taskSteps (task : Nat) (c : Course) : List Event :=
  [ .startReturns c.failure c.starting, .invokes task c.id,
    .returns task c.outcome c.draft c.elapsed, .writes task, .writes task, .resumes task ]

theorem progress_closingStage (lines : List Telemetry.Line) (answer : Http.Response)
    (pause : Nat) : 5 - lines.length ≤ (closingStage lines answer pause).progress := by
  simp only [closingStage, afterClosing]
  split
  · split <;> simp only [Stage.progress] <;> omega
  · exact Nat.le_refl _

theorem Service.awaits {c : Course} (h : Service settings call stage invocations results)
    (next : (taskSteps task c)[stage.progress]? = some v) : stage.Awaits task v := by
  cases h with
  | atGate | ready | invoking =>
    cases next
    trivial
  | ending id outcome draft _ answer soon =>
    cases stage with
    | closing lines answer pause =>
      match lines, soon with
      | [_], _ | [_, _], _ =>
        cases next
        exact rfl
    | pausing =>
      cases next
      exact rfl
    | answered => cases next
    | atGate | ready | invoking | gone => cases answer

theorem Moves.progress_le (h : Moves e task call v stage next handedNow resultsNow)
    (soon : stage.ClosesSoon) :
    stage.progress ≤ next.progress ∧ (stage.Awaits task v → stage.progress < next.progress) := by
  cases h with
  | rests _ _ other => exact ⟨Nat.le_refl _, fun awaits => absurd awaits other⟩
  | passes | invokes | resumes => simp [Stage.progress]
  | returns outcome draft elapsed id init lines few =>
    have hclosing := progress_closingStage lines
      ((Disposition.of outcome).answer e.plan.settings.timeoutSeconds draft)
      (Disposition.of outcome).pause
    have hinvoking : (Stage.invoking id init).progress = 2 := rfl
    omega
  | writes line rest answer pause =>
    have hclosing := progress_closingStage rest answer pause
    have hnow : (Stage.closing (line :: rest) answer pause).progress = 5 - (rest.length + 1) := rfl
    have few : rest.length + 1 ≤ 2 := soon.2
    omega

theorem Service.ne_gone (h : Service settings call stage invocations results) :
    stage ≠ .gone := by
  rintro rfl
  cases h with
  | ending _ _ _ _ answer => cases answer

theorem Service.closesSoon (h : Service settings call stage invocations results) :
    stage.ClosesSoon := by
  cases h with
  | atGate | ready | invoking => trivial
  | ending _ _ _ _ _ soon => exact soon

/-- A task at an endpoint where everybody at the gate is known. -/
def Attended (task : Nat) (call : Call) (e : Endpoint) : Prop :=
  e.Gathered ∧ ∃ invocations results, e.Serves task call invocations results

theorem advances (task : Nat) (call : Call) (c : Course) :
    Schedule.Advances step (Attended task call) (· ≠ .leaves task) (progress · task)
      (taskSteps task c) := by
  have hmoves (e : Endpoint) (v : Event) (h : Attended task call e) (stays : v ≠ .leaves task) :
      progress e task ≤ progress (e.step v) task ∧
        ((taskSteps task c)[progress e task]? = some v →
          progress e task < progress (e.step v) task) := by
    obtain ⟨gathered, invocations, results, served⟩ := h
    obtain ⟨stage, stands, service⟩ := served.service
    obtain ⟨next, hnext, moves⟩ := gathered.moves served.called stands stays
    obtain ⟨hle, hlt⟩ := moves.progress_le service.closesSoon
    simp only [progress, stands, hnext, Option.elim_some]
    exact ⟨hle, fun own => hlt (service.awaits own)⟩
  constructor
  · rintro e v ⟨gathered, invocations, results, served⟩ stays
    exact ⟨gathered.step v, _, _, served.step gathered stays⟩
  · intro e v h stays
    exact (hmoves e v h stays).1
  · intro e v h stays own
    exact (hmoves e v h stays).2 own

/-- A task that stays is answered as soon as it has taken its steps, whatever others do in
    between. -/
theorem Serves.ends (h : e.Serves task call invocations results) (gathered : e.Gathered)
    (stays : .leaves task ∉ events) {c : Course}
    (steps : ((taskSteps task c).drop (e.progress task)).Sublist events) :
    ((e.run events).answer? task).isSome := by
  have fair : ∀ v ∈ events, v ≠ .leaves task := by
    rintro v hv rfl
    exact stays hv
  have done : 6 ≤ (e.run events).progress task :=
    (advances task call c).completes ⟨gathered, _, _, h⟩ fair steps
  obtain ⟨stage, stands, service⟩ := (h.run gathered stays).service
  rw [progress, stands] at done
  cases hstage : stage with
  | answered answer => simp [answer?, stands, hstage]
  | gone => exact absurd hstage service.ne_gone
  | closing lines answer pause =>
    subst hstage
    have hlength : 6 ≤ 5 - lines.length := done
    omega
  | atGate | ready | invoking | pausing => simp [hstage, Stage.progress] at done

end FunctionHost.Endpoint
