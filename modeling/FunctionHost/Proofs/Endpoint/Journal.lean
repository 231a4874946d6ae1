-- SUMMARY: Which lines each task of an endpoint writes, and what the sink shows of them.
import FunctionHost.Proofs.Endpoint.Gate
import FunctionHost.Proofs.Telemetry.Sink

/-! # The journal of an endpoint

Every line that is written is recorded with the task that wrote it. Whatever the others do in
between, the lines of one task follow a script: the first line as it invokes the sandbox, and two
closing lines after the sandbox returned, if its outcome is one that is reported. How much of the
script has been written is determined by the stage of the task. -/

namespace FunctionHost.Endpoint

open Telemetry (Line)

/-! ## Records by task -/

/-- What is recorded of a task. -/
def own {α : Type} (task : Nat) (entries : List (Nat × α)) : List α :=
  (entries.filter (·.1 = task)).map (·.2)

section Own

variable {α : Type} {task other : Nat} {entries : List (Nat × α)} {a : α}

@[simp] theorem own_nil : own task ([] : List (Nat × α)) = [] := rfl

@[simp] theorem own_append (first second : List (Nat × α)) :
    own task (first ++ second) = own task first ++ own task second := by
  simp [own]

theorem own_map_same (new : List α) : own task (new.map fun a => (task, a)) = new := by
  simp [own, List.filter_map, Function.comp_def]

theorem own_map_other (h : task ≠ other) (new : List α) :
    own task (new.map fun a => (other, a)) = [] := by
  simp [own, Ne.symm h]

theorem own_single_same (a : α) : own task [(task, a)] = [a] :=
  own_map_same [a]

theorem own_single_other (h : task ≠ other) (a : α) : own task [(other, a)] = [] :=
  own_map_other h [a]

theorem own_map_snd {β : Type} (f : α → β) (entries : List (Nat × α)) :
    own task (entries.map fun entry => (entry.1, f entry.2)) = (own task entries).map f := by
  simp [own, List.filter_map, Function.comp_def]

theorem own_filter (p : α → Bool) (entries : List (Nat × α)) :
    own task (entries.filter fun entry => p entry.2) = (own task entries).filter p := by
  simp only [own, List.filter_map, List.filter_filter, Function.comp_def, Bool.and_comm]

theorem mem_own : a ∈ own task entries ↔ (task, a) ∈ entries := by
  simp [own]

end Own

/-! ## What is recorded -/

/-- The id under which a task invokes the sandbox by an event. -/
def invoked (e : Endpoint) : Event → List (Nat × String)
  | .invokes task id =>
    match e.stage? task with
    | some (.ready _) => [(task, id)]
    | _ => []
  | _ => []

/-- The line that a task writes by an event. -/
def written (e : Endpoint) : Event → List (Nat × Line)
  | .invokes task id =>
    match e.stage? task with
    | some (.ready _) => [(task, .started id e.plan.settings.version)]
    | _ => []
  | .writes task =>
    match e.stage? task with
    | some (.closing (line :: _) _ _) => [(task, line)]
    | _ => []
  | _ => []

/-- The lines that were written over a run of events, with the tasks that wrote them. -/
def journal : Endpoint → List Event → List (Nat × Line) :=
  record written

/-- How the sandbox returned from an invocation. -/
structure Completion where
  id : String
  init : Option Number.Binary64
  outcome : Outcome
  elapsed : Time.Span

/-- The invocation from which the sandbox returns by an event. -/
def completing (e : Endpoint) : Event → List (Nat × Completion)
  | .returns task outcome _ elapsed =>
    match e.stage? task with
    | some (.invoking id init) => [(task, ⟨id, init, outcome, elapsed⟩)]
    | _ => []
  | _ => []

/-- The invocations from which the sandbox returned over a run of events, with their tasks. -/
def completions : Endpoint → List Event → List (Nat × Completion) :=
  record completing

/-- The lines about an invocation: always the first one, and the two closing ones exactly if it was
    served or ran into its time limit. -/
def Completion.script (c : Completion) (settings : Settings) : List Line :=
  .started c.id settings.version ::
    if c.outcome = .served ∨ c.outcome = .failed .invokeTimeout then
      [.ended c.id, .report c.id c.init (c.elapsed.clampedMillis settings.timeout) settings.memory]
    else []

theorem reports_iff (outcome : Outcome) :
    (Disposition.of outcome).reports = true ↔
      outcome = .served ∨ outcome = .failed .invokeTimeout := by
  cases outcome with
  | served => decide
  | failed failure => cases failure <;> decide

/-- The script of an invocation is its first line and what is left to write once the sandbox has
    returned. -/
theorem Completion.script_eq (c : Completion) (settings : Settings) :
    c.script settings =
      .started c.id settings.version ::
        if (Disposition.of c.outcome).reports then
          Telemetry.closing c.id c.init settings.memory c.elapsed settings.timeout
        else [] := by
  simp only [script, reports_iff, Telemetry.closing]

/-! ## One task -/

/-- How a task stands, given the id under which it invoked the sandbox, the lines it wrote and how
    the sandbox returned to it. -/
inductive Standing (settings : Settings) :
    Option Stage → List String → List Line → List Completion → Prop where
  | absent : Standing settings none [] [] []
  | atGate : Standing settings (some .atGate) [] [] []
  | ready (init : Option Number.Binary64) : Standing settings (some (.ready init)) [] [] []
  | invoking (id : String) (init : Option Number.Binary64) :
      Standing settings (some (.invoking id init)) [id] [.started id settings.version] []
  | closing (c : Completion) (lines rest : List Line) (answer : Http.Response) (pause : Nat)
      (script : lines ++ rest = c.script settings) :
      Standing settings (some (.closing rest answer pause)) [c.id] lines [c]
  | pausing (c : Completion) (answer : Http.Response) :
      Standing settings (some (.pausing answer)) [c.id] (c.script settings) [c]
  | answered (c : Completion) (answer : Http.Response) :
      Standing settings (some (.answered answer)) [c.id] (c.script settings) [c]
  | gone (ids : List String) (lines : List Line) (completed : List Completion) :
      Standing settings (some .gone) ids lines completed

variable {settings : Settings} {e : Endpoint} {v : Event} {events : List Event} {task : Nat}
  {ids : List String} {lines rest : List Line} {completed : List Completion}

/-- A task whose invocation returned goes on to write what is left of the script. -/
theorem Standing.close {c : Completion} (script : lines ++ rest = c.script settings)
    (answer : Http.Response) (pause : Nat) :
    Standing settings (some (closingStage rest answer pause)) [c.id] lines [c] := by
  simp only [closingStage, afterClosing]
  cases rest with
  | nil =>
    rw [List.append_nil] at script
    subst script
    split
    · split
      · exact .answered c answer
      · exact .pausing c answer
    · next hempty => simp at hempty
  | cons line rest => exact .closing c lines (line :: rest) answer pause script

theorem Standing.of_answered {answer : Http.Response}
    (h : Standing settings (some (.answered answer)) ids lines completed) :
    ∃ c : Completion, ids = [c.id] ∧ lines = c.script settings ∧ completed = [c] := by
  cases h with
  | answered c => exact ⟨c, rfl, rfl, rfl⟩

theorem invoked_of_idle (lost : ¬ e.Applies v) : invoked e v = [] := by
  cases v with
  | invokes task id =>
    simp only [invoked]
    split
    · next init stands => exact absurd ⟨init, stands⟩ lost
    · rfl
  | arrives | startReturns | returns | writes | resumes | leaves => rfl

theorem written_of_idle (lost : ¬ e.Applies v) : written e v = [] := by
  cases v with
  | invokes task id =>
    simp only [written]
    split
    · next init stands => exact absurd ⟨init, stands⟩ lost
    · rfl
  | writes task =>
    simp only [written]
    split
    · next line rest answer pause stands => exact absurd ⟨line, rest, answer, pause, stands⟩ lost
    · rfl
  | arrives | startReturns | returns | resumes | leaves => rfl

theorem completing_of_idle (lost : ¬ e.Applies v) : completing e v = [] := by
  cases v with
  | returns task outcome draft elapsed =>
    simp only [completing]
    split
    · next id init stands => exact absurd ⟨id, init, stands⟩ lost
    · rfl
  | arrives | startReturns | invokes | writes | resumes | leaves => rfl

theorem Standing.arrive (h : Standing e.plan.settings (e.stage? task) ids lines completed)
    (call : Call) :
    Standing e.plan.settings ((e.arrive call).stage? task) ids lines completed := by
  rw [stage?_arrive]
  split
  · next hnew =>
    rw [stage?_eq_none_iff.2 (Nat.le_of_eq hnew.symm)] at h
    cases h
    split
    · exact .ready none
    · exact .atGate
  · exact h

theorem Standing.startReturned (h : Standing e.plan.settings (e.stage? task) ids lines completed)
    (gathered : e.Gathered) {runner : Caller} (running : e.gate.runner = some runner)
    (failure : Option String) (elapsed : Time.Span) :
    Standing e.plan.settings ((e.startReturned runner failure elapsed).stage? task) ids
      lines completed := by
  rw [stage?_startReturned]
  by_cases hrunner : task = runner
  · rw [gathered.atGate_of_running (hrunner ▸ running)] at h ⊢
    cases h
    simpa [hrunner] using .ready _
  · by_cases hwaits : task ∈ e.gate.waiting
    · rw [gathered.atGate_of_waiting hwaits] at h ⊢
      cases h
      simpa [hrunner, hwaits] using .ready none
    · simpa [hrunner, hwaits] using h

/-- If some task moves on and something is recorded of it, the others stay as they stand. -/
theorem Standing.move (h : Standing settings (e.stage? task) ids lines completed) {mover : Nat}
    {old : Stage} (stands : e.stage? mover = some old) (stage : Stage) (newIds : List String)
    (newLines : List Line) (newCompleted : List Completion)
    (moves : Standing settings (some old) ids lines completed →
      Standing settings (some stage) (ids ++ newIds) (lines ++ newLines)
        (completed ++ newCompleted)) :
    Standing settings ((e.move mover stage).stage? task)
      (ids ++ own task (newIds.map fun id => (mover, id)))
      (lines ++ own task (newLines.map fun line => (mover, line)))
      (completed ++ own task (newCompleted.map fun c => (mover, c))) := by
  by_cases hmover : task = mover
  · subst hmover
    rw [stage?_move_same (by simp [stands]), own_map_same, own_map_same, own_map_same]
    exact moves (stands ▸ h)
  · rw [stage?_move_other hmover, own_map_other hmover, own_map_other hmover, own_map_other hmover,
      List.append_nil, List.append_nil, List.append_nil]
    exact h

/-- One event takes a task along its script. -/
theorem Standing.step (h : Standing e.plan.settings (e.stage? task) ids lines completed)
    (gathered : e.Gathered) (v : Event) :
    Standing e.plan.settings ((e.step v).stage? task) (ids ++ own task (invoked e v))
      (lines ++ own task (written e v)) (completed ++ own task (completing e v)) := by
  generalize he : e.step v = e'
  cases he ▸ transition e v with
  | idle v lost =>
    simpa [invoked_of_idle lost, written_of_idle lost, completing_of_idle lost] using h
  | arrives call => simpa [invoked, written, completing] using h.arrive call
  | opens runner failure elapsed running =>
    simpa [invoked, written, completing] using h.startReturned gathered running failure elapsed
  | invokes mover id call init found =>
    have stands := stage?_of_found found
    simp only [invoked, written, completing, stands]
    refine h.move stands (.invoking id init) [id] [.started id e.plan.settings.version] [] ?_
    rintro ⟨⟩
    exact .invoking id init
  | returns mover outcome draft elapsed id init stands =>
    simp only [invoked, written, completing, stands]
    refine h.move stands _ [] [] [⟨id, init, outcome, elapsed⟩] ?_
    rintro ⟨⟩
    exact Standing.close (c := ⟨id, init, outcome, elapsed⟩)
      (Completion.script_eq ⟨id, init, outcome, elapsed⟩ e.plan.settings).symm _ _
  | writes mover line rest answer pause stands =>
    simp only [invoked, written, completing, stands]
    refine h.move stands (closingStage rest answer pause) [] [line] [] ?_
    intro closing
    cases closing with
    | closing c _ _ _ _ script => exact .close (by simpa using script) answer pause
  | resumes mover answer stands =>
    refine h.move stands (.answered answer) [] [] [] ?_
    intro pausing
    cases pausing with
    | pausing c => simpa using Standing.answered c answer
  | departs mover stage stands unanswered =>
    exact h.move stands .gone [] [] [] fun _ => .gone _ _ _

/-! ## Whole runs -/

theorem Standing.run (h : Standing e.plan.settings (e.stage? task) ids lines completed)
    (gathered : e.Gathered) (events : List Event) :
    Standing e.plan.settings ((e.run events).stage? task)
      (ids ++ own task (record invoked e events)) (lines ++ own task (journal e events))
      (completed ++ own task (completions e events)) := by
  induction events generalizing e ids lines completed with
  | nil => simpa [record, journal, completions] using h
  | cons v rest ih =>
    have next := ih (e := e.step v) ((transition e v).plan.symm ▸ h.step gathered v)
      (gathered.step v)
    simpa [record, journal, completions, (transition e v).plan, List.append_assoc] using next

/-- What is written by an event goes to the sink. -/
theorem sink_step (e : Endpoint) (v : Event) :
    (e.step v).sink = (e.sink.writeAll ((written e v).map (·.2))).1 := by
  generalize he : e.step v = e'
  cases he ▸ transition e v with
  | idle v lost => simp [written_of_idle lost, Telemetry.Sink.writeAll]
  | arrives call => rfl
  | opens runner failure elapsed running => simp [written, startReturned_eq, Telemetry.Sink.writeAll]
  | invokes task id call init found =>
    simp only [written, stage?_of_found found]
    rfl
  | returns => rfl
  | writes task line rest answer pause stands =>
    simp only [written, stands]
    rfl
  | resumes => rfl
  | departs => rfl

/-- The lines that were written went to the sink, one after the other. -/
theorem sink_run (e : Endpoint) (events : List Event) :
    (e.run events).sink = (e.sink.writeAll ((journal e events).map (·.2))).1 := by
  induction events generalizing e with
  | nil => rfl
  | cons v rest ih =>
    rw [run_cons, ih, sink_step, journal, record, List.map_append, Telemetry.Sink.writeAll_append]

/-- A sink with room for everything holds the lines that were written. -/
theorem written_run (h : e.sink.capacity = none) (events : List Event) :
    (e.run events).sink.written =
      e.sink.written ++
        (journal e events).flatMap fun entry => Telemetry.Sink.lineBytes entry.2 := by
  rw [sink_run, Telemetry.Sink.written_writeAll h, List.flatMap_map]

theorem invocations_step (e : Endpoint) (v : Event) :
    (e.step v).invocations.map (·.id) = e.invocations.map (·.id) ++ (invoked e v).map (·.2) := by
  generalize he : e.step v = e'
  cases he ▸ transition e v with
  | idle v lost => simp [invoked_of_idle lost]
  | arrives call => simp [invoked, arrive, withGate]
  | opens runner failure elapsed running => simp [invoked, startReturned_eq]
  | invokes task id call init found =>
    simp [invoked, stage?_of_found found, invoke, writing, move, logging, Invocation.ofRequest]
  | returns | writes | resumes | departs =>
    simp [invoked, returned, writing, depart, move, logging, withGate]

theorem invocations_run (e : Endpoint) (events : List Event) :
    (e.run events).invocations.map (·.id) =
      e.invocations.map (·.id) ++ (record invoked e events).map (·.2) := by
  induction events generalizing e with
  | nil => simp [record]
  | cons v rest ih =>
    rw [run_cons, ih, invocations_step]
    simp [record]

end FunctionHost.Endpoint
