-- SUMMARY: The telemetry of an endpoint once every request was answered.
import FunctionHost.Proofs.Endpoint.Journal
import FunctionHost.Proofs.Endpoint.Start
import Mathlib.Data.List.Nodup

/-! # The telemetry of a whole run

The sink of an endpoint shows the lines that were written, whole and in order. When every request
was answered, the lines under the id of each of them are its script, there are no other lines, and
at most one of them reports how long the start took: that of the request that carried it out. -/

namespace FunctionHost.Endpoint

open Telemetry (Line)
open Text.Lines (IsUnbroken)

variable {e : Endpoint} {report : StartReport} {events : List Event} {task : Nat} {c : Completion}

/-! ## Who knows about the start -/

theorem Opened.init_of_completing (h : e.Opened report) {v : Event}
    (completed : (task, c) ∈ completing e v) : c.init = told report task := by
  cases v with
  | returns returning outcome draft elapsed =>
    simp only [completing] at completed
    split at completed
    · next id init stands =>
      cases List.mem_singleton.1 completed
      exact h.stages _ _ stands
    · exact absurd completed List.not_mem_nil
  | arrives | startReturns | invokes | writes | resumes | leaves =>
    exact absurd completed List.not_mem_nil

theorem Closed.completing_eq_nil (h : e.Closed) (v : Event) : completing e v = [] := by
  cases v with
  | returns returning outcome draft elapsed =>
    simp only [completing]
    split
    · next id init stands => exact absurd (h.stages _ _ stands) (by simp)
    · rfl
  | arrives | startReturns | invokes | writes | resumes | leaves => rfl

theorem Opened.init_of_completed (h : e.Opened report)
    (patient : ∀ task, Event.leaves task ∉ events) (completed : (task, c) ∈ completions e events) :
    c.init = told report task := by
  induction events generalizing e with
  | nil => exact absurd completed List.not_mem_nil
  | cons v rest ih =>
    obtain ⟨stays, stayOn⟩ := patient_cons patient
    rcases List.mem_append.1 completed with now | later
    · exact h.init_of_completing now
    · exact ih (h.step v stays) stayOn later

/-- The start of the sandbox returned by one of some events, having taken as long as is reported. -/
def StartedWithin (plan : Plan) (events : List Event) (report : StartReport) : Prop :=
  ∃ failure elapsed, .startReturns failure elapsed ∈ events ∧
    report.duration = elapsed.clampedMillis plan.settings.timeout

theorem StartedWithin.cons {plan : Plan} (h : StartedWithin plan events report) (v : Event) :
    StartedWithin plan (v :: events) report := by
  obtain ⟨failure, elapsed, returns, duration⟩ := h
  exact ⟨failure, elapsed, List.mem_cons_of_mem v returns, duration⟩

/-- What an invocation knows about the start is what its task was told. -/
theorem Closed.init_of_completed (h : e.Closed) (patient : ∀ task, Event.leaves task ∉ events)
    (completed : (task, c) ∈ completions e events) :
    ∃ report, (0, some report) ∈ passages e events ∧ c.init = told report task ∧
      StartedWithin e.plan events report := by
  induction events generalizing e with
  | nil => exact absurd completed List.not_mem_nil
  | cons v rest ih =>
    obtain ⟨stays, later⟩ := patient_cons patient
    have hrest : (task, c) ∈ completions (e.step v) rest := by
      simpa [completions, record, h.completing_eq_nil v] using completed
    rcases h.step v stays with still | ⟨failure, elapsed, rfl, running, opened⟩
    · obtain ⟨report, passed, hinit, started⟩ := ih still later hrest
      rw [(transition e v).plan] at started
      exact ⟨report, List.mem_append_right _ passed, hinit, started.cons v⟩
    · refine ⟨e.plan.report failure elapsed, List.mem_append_left _ ?_,
        opened.init_of_completed later hrest, failure, elapsed, List.mem_cons_self, ?_⟩
      · rw [h.passing_return running]
        exact List.mem_cons_self
      · rw [Plan.report]

/-! ## Scripts -/

namespace Completion

variable {settings : Settings} {l : Line}

theorem mem_script (h : l ∈ c.script settings) :
    l = .started c.id settings.version ∨ l = .ended c.id ∨
      l = .report c.id c.init (c.elapsed.clampedMillis settings.timeout) settings.memory := by
  simp only [script] at h
  split at h <;> simp at h <;> tauto

theorem id_of_mem_script (h : l ∈ c.script settings) : l.id = c.id := by
  rcases mem_script h with rfl | rfl | rfl <;> rfl

/-- Of the lines about an invocation, only the last one can tell how long the start took. -/
theorem length_init_script (c : Completion) (settings : Settings) :
    ((c.script settings).filter (·.init?.isSome)).length ≤ 1 := by
  simp only [script]
  split
  · simpa [Line.init?] using List.length_filter_le _ [Line.report _ _ _ _]
  · simp [Line.init?]

theorem init?_of_mem_script {millis : Number.Binary64} (h : l ∈ c.script settings)
    (reported : l.init? = some millis) : c.init = some millis := by
  rcases mem_script h with rfl | rfl | rfl
  · cases reported
  · cases reported
  · exact reported

/-- The texts of the lines about an invocation: always the first one, and the two closing ones
    exactly if it was served or ran into its time limit. -/
def lineTexts (c : Completion) (settings : Settings) : List String :=
  let millis := c.elapsed.clampedMillis settings.timeout
  Telemetry.startText c.id settings.version ::
    if c.outcome = .served ∨ c.outcome = .failed .invokeTimeout then
      Telemetry.closingTexts c.id c.init (millis.fixed 2) (millis.ceil.fixed 0) settings.memory
    else []

theorem map_render_script (c : Completion) (settings : Settings) :
    (c.script settings).map Line.render = c.lineTexts settings := by
  have closing := Telemetry.render_closing c.id c.init settings.memory c.elapsed settings.timeout
  unfold script lineTexts
  rw [List.map_cons]
  refine congrArg₂ List.cons rfl ?_
  split
  · exact closing
  · rfl

theorem whole_of_mem_script (h : l ∈ c.script settings) (id : IsUnbroken c.id.toList)
    (version : IsUnbroken settings.version.toList) (memory : IsUnbroken settings.memory.toList) :
    l.IsWhole := by
  rcases mem_script h with rfl | rfl | rfl <;> simp [Line.IsWhole, Line.texts, id, version, memory]

end Completion

/-! ## Runs in which everybody was answered -/

/-- Every request was answered. -/
def Answered (e : Endpoint) : Prop :=
  ∀ task < e.tasks.length, (e.answer? task).isSome

instance (e : Endpoint) : Decidable e.Answered :=
  Nat.decidableBallLT _ _

theorem Answered.stage? (h : e.Answered) (present : task < e.tasks.length) :
    ∃ answer, e.stage? task = some (.answered answer) := by
  have hanswer := h task present
  simp only [answer?] at hanswer
  split at hanswer
  · next answer stands => exact ⟨answer, stands⟩
  · cases hanswer

/-- An endpoint before its first request, with room for all lines. -/
def roomy (plan : Plan) : Endpoint :=
  fresh plan .unlimited

theorem roomy_closed (plan : Plan) : (roomy plan).Closed :=
  Closed.fresh plan .unlimited

variable {plan : Plan} {l : Line}

theorem roomy_standing (plan : Plan) (events : List Event) (task : Nat) :
    Standing plan.settings (((roomy plan).run events).stage? task)
      (own task (record invoked (roomy plan) events)) (own task (journal (roomy plan) events))
      (own task (completions (roomy plan) events)) := by
  have begins : Standing plan.settings ((roomy plan).stage? task) [] [] [] := by
    rw [stage?_eq_none_iff.2 (Nat.zero_le task)]
    exact .absent
  exact begins.run (Gathered.fresh plan .unlimited) events

/-- What is recorded of a request that was answered: the sandbox was invoked under one id and
    returned once, and the lines are the script for that. -/
structure Recorded (plan : Plan) (events : List Event) (task : Nat) (c : Completion) : Prop where
  completed : own task (completions (roomy plan) events) = [c]
  invoked : own task (record invoked (roomy plan) events) = [c.id]
  lines : own task (journal (roomy plan) events) = c.script plan.settings

theorem Standing.recorded {answer : Http.Response}
    (stands : ((roomy plan).run events).stage? task = some (.answered answer))
    (h : Standing plan.settings (((roomy plan).run events).stage? task)
      (own task (record Endpoint.invoked (roomy plan) events))
      (own task (journal (roomy plan) events)) (own task (completions (roomy plan) events))) :
    ∃ c, Recorded plan events task c := by
  rw [stands] at h
  obtain ⟨c, hids, hlines, hcompleted⟩ := h.of_answered
  exact ⟨c, hcompleted, hids, hlines⟩

theorem Standing.of_absent {settings : Settings} {ids : List String} {lines : List Line}
    {completed : List Completion} (h : Standing settings none ids lines completed) :
    lines = [] := by
  cases h
  rfl

theorem exists_recorded (answered : ((roomy plan).run events).Answered)
    (present : task < ((roomy plan).run events).tasks.length) :
    ∃ c, Recorded plan events task c := by
  obtain ⟨answer, stands⟩ := answered.stage? present
  exact (roomy_standing plan events task).recorded stands

/-- A line is part of the script of whoever wrote it. -/
theorem recorded_of_journal (answered : ((roomy plan).run events).Answered)
    (mem : (task, l) ∈ journal (roomy plan) events) :
    ∃ c, Recorded plan events task c ∧ l ∈ c.script plan.settings := by
  have present : task < ((roomy plan).run events).tasks.length := by
    refine Nat.not_le.1 fun absent => ?_
    have nothing := (stage?_eq_none_iff.2 absent ▸ roomy_standing plan events task).of_absent
    exact absurd (mem_own.2 mem) (nothing ▸ List.not_mem_nil)
  obtain ⟨c, recorded⟩ := exists_recorded answered present
  exact ⟨c, recorded, recorded.lines ▸ mem_own.2 mem⟩

namespace Recorded

variable {other : Nat} {c' : Completion}

theorem mem_completions (h : Recorded plan events task c) :
    (task, c) ∈ completions (roomy plan) events :=
  mem_own.1 (h.completed ▸ List.mem_singleton.2 rfl)

theorem mem_invoked (h : Recorded plan events task c) :
    (task, c.id) ∈ record Endpoint.invoked (roomy plan) events :=
  mem_own.1 (h.invoked ▸ List.mem_singleton.2 rfl)

theorem unique (h : Recorded plan events task c) (h' : Recorded plan events task c') : c = c' :=
  List.head_eq_of_cons_eq (h.completed.symm.trans h'.completed)

/-- If no id was used twice, a request is known by its id. -/
theorem task_eq (h : Recorded plan events task c) (h' : Recorded plan events other c')
    (distinct : (((roomy plan).run events).invocations.map (·.id)).Nodup) (same : c.id = c'.id) :
    task = other := by
  rw [invocations_run, List.nodup_append] at distinct
  exact congrArg Prod.fst
    (List.inj_on_of_nodup_map distinct.2.1 h.mem_invoked h'.mem_invoked same)

end Recorded

/-! ## Lines by id -/

/-- The lines that were written over a run of events, in order. -/
def transcript (e : Endpoint) (events : List Event) : List Line :=
  (journal e events).map (·.2)

/-- The lines under the id of a request that was answered are its script. -/
theorem Recorded.filter_transcript (h : Recorded plan events task c)
    (answered : ((roomy plan).run events).Answered)
    (distinct : (((roomy plan).run events).invocations.map (·.id)).Nodup) :
    (transcript (roomy plan) events).filter (·.id = c.id) = c.script plan.settings := by
  rw [← h.lines, transcript, List.filter_map, own]
  congr 1
  refine List.filter_congr ?_
  rintro ⟨other, l⟩ mem
  obtain ⟨c', recorded, hl⟩ := recorded_of_journal answered mem
  have hid : l.id = c'.id := Completion.id_of_mem_script hl
  refine decide_eq_decide.2 ⟨fun same => ?_, fun same => ?_⟩
  · exact recorded.task_eq h distinct (hid.symm.trans same)
  · obtain rfl : other = task := same
    rw [h.unique recorded]
    exact hid

/-- A line that tells how long the start took is about the request that was told about it. -/
theorem told_of_init? (patient : ∀ task, Event.leaves task ∉ events)
    (answered : ((roomy plan).run events).Answered) (mem : l ∈ transcript (roomy plan) events)
    {millis : Number.Binary64} (reported : l.init? = some millis) :
    ∃ c report, Recorded plan events 0 c ∧ l.id = c.id ∧
      (0, some report) ∈ passages (roomy plan) events ∧ millis = report.duration ∧
      StartedWithin plan events report := by
  obtain ⟨⟨task, _⟩, hmem, rfl⟩ := List.mem_map.1 mem
  obtain ⟨c, recorded, hl⟩ := recorded_of_journal answered hmem
  obtain ⟨report, passed, hinit, started⟩ :=
    (roomy_closed plan).init_of_completed patient recorded.mem_completions
  rw [Completion.init?_of_mem_script hl reported, told] at hinit
  split at hinit
  · next hfirst =>
    subst hfirst
    exact ⟨c, report, recorded, Completion.id_of_mem_script hl, passed, Option.some.inj hinit,
      started⟩
  · cases hinit

theorem length_init_transcript (patient : ∀ task, Event.leaves task ∉ events)
    (answered : ((roomy plan).run events).Answered)
    (distinct : (((roomy plan).run events).invocations.map (·.id)).Nodup) :
    ((transcript (roomy plan) events).filter (·.init?.isSome)).length ≤ 1 := by
  by_cases hsome : ∃ l ∈ transcript (roomy plan) events, l.init?.isSome
  · obtain ⟨l, hl, hinit⟩ := hsome
    obtain ⟨millis, reported⟩ := Option.isSome_iff_exists.1 hinit
    obtain ⟨c, -, recorded, -⟩ := told_of_init? patient answered hl reported
    -- Every such line is about the same request, so they are all in its script.
    have hall : (transcript (roomy plan) events).filter (·.init?.isSome) =
        ((transcript (roomy plan) events).filter (·.id = c.id)).filter (·.init?.isSome) := by
      rw [List.filter_filter]
      refine List.filter_congr fun l hl => ?_
      cases hreported : l.init? with
      | none => simp
      | some millis =>
        obtain ⟨c', -, recorded', hid, -⟩ := told_of_init? patient answered hl hreported
        simp [hid, recorded.unique recorded']
    rw [hall, recorded.filter_transcript answered distinct]
    exact c.length_init_script plan.settings
  · have hnone : (transcript (roomy plan) events).filter (·.init?.isSome) = [] := by
      simpa [List.filter_eq_nil_iff] using hsome
    simp [hnone]

/-- At any time the sink shows the lines that were written so far, whole and in order. -/
theorem lines_of_transcript (whole : ∀ l ∈ transcript (roomy plan) events, l.IsWhole) :
    ((roomy plan).run events).sink.lines = (transcript (roomy plan) events).map Line.render := by
  refine Telemetry.Sink.lines_of_written ?_ whole
  rw [written_run rfl, transcript, List.flatMap_map]
  rfl

/-- If every request was answered, under an id of its own, and the texts that lines are made of are
    single lines, then the sink shows for each request its script and nothing else. At most one line
    tells how long the start took, and it is about the request that was told about the start. The
    ids of a served endpoint are UUIDs, so for them being single lines is no restriction. -/
theorem telemetry_of_answered (plan : Plan) (events : List Event)
    (patient : ∀ task, Event.leaves task ∉ events)
    (answered : ((roomy plan).run events).Answered)
    (distinct : (((roomy plan).run events).invocations.map (·.id)).Nodup)
    (ids : ∀ invocation ∈ ((roomy plan).run events).invocations,
      IsUnbroken invocation.id.toList)
    (version : IsUnbroken plan.settings.version.toList)
    (memory : IsUnbroken plan.settings.memory.toList) :
    -- At any time the sink shows the lines that were written so far, whole and in order.
    (∀ before after, events = before ++ after →
      ((roomy plan).run before).sink.lines = (transcript (roomy plan) before).map Line.render) ∧
    -- In the end every request has its script, in these words, and there are no other lines.
    (∀ task < ((roomy plan).run events).tasks.length,
      ∃ c, own task (completions (roomy plan) events) = [c] ∧
        (transcript (roomy plan) events).filter (·.id = c.id) = c.script plan.settings ∧
        (c.script plan.settings).map Line.render = c.lineTexts plan.settings) ∧
    (∀ l ∈ transcript (roomy plan) events,
      ∃ task c, (task, c) ∈ completions (roomy plan) events ∧ l.id = c.id) ∧
    -- At most one line tells how long the start took, that of the request that was told.
    ((transcript (roomy plan) events).filter (·.init?.isSome)).length ≤ 1 ∧
    ∀ l ∈ transcript (roomy plan) events, ∀ millis, l.init? = some millis →
      ∃ c report, (0, c) ∈ completions (roomy plan) events ∧ l.id = c.id ∧
        (0, some report) ∈ passages (roomy plan) events ∧ millis = report.duration ∧
        StartedWithin plan events report := by
  have whole : ∀ l ∈ transcript (roomy plan) events, l.IsWhole := by
    intro l hl
    obtain ⟨⟨task, _⟩, hmem, rfl⟩ := List.mem_map.1 hl
    obtain ⟨c, recorded, hscript⟩ := recorded_of_journal answered hmem
    have hid : c.id ∈ ((roomy plan).run events).invocations.map (·.id) := by
      rw [invocations_run]
      exact List.mem_append_right _ (List.mem_map.2 ⟨_, recorded.mem_invoked, rfl⟩)
    obtain ⟨invocation, hinvocation, hsame⟩ := List.mem_map.1 hid
    exact Completion.whole_of_mem_script hscript (hsame ▸ ids invocation hinvocation) version memory
  refine ⟨?_, ?_, ?_, length_init_transcript patient answered distinct, ?_⟩
  · rintro before after rfl
    refine lines_of_transcript fun l hl => whole l ?_
    rw [transcript, journal, record_append, List.map_append]
    exact List.mem_append_left _ hl
  · intro task present
    obtain ⟨c, recorded⟩ := exists_recorded answered present
    exact ⟨c, recorded.completed, recorded.filter_transcript answered distinct,
      c.map_render_script plan.settings⟩
  · intro l hl
    obtain ⟨⟨task, _⟩, hmem, rfl⟩ := List.mem_map.1 hl
    obtain ⟨c, recorded, hscript⟩ := recorded_of_journal answered hmem
    exact ⟨task, c, recorded.mem_completions, Completion.id_of_mem_script hscript⟩
  · intro l hl millis reported
    obtain ⟨c, report, recorded, hid, passed, hmillis, started⟩ :=
      told_of_init? patient answered hl reported
    exact ⟨c, report, recorded.mem_completions, hid, passed, hmillis, started⟩

/-- Two requests whose lines are mixed with each other. The first one is served, and the second one
    runs into its time limit. -/
def overlapping : List Event :=
  [ .arrives bareCall, .arrives bareCall, .startReturns none (.ofSeconds 1), .invokes 1 "b",
    .invokes 0 "a", .returns 1 (.failed .invokeTimeout) default (.ofSeconds 300),
    .returns 0 .served default (.ofSeconds 2), .writes 1, .writes 0, .writes 0, .writes 1,
    .resumes 1 ]

theorem telemetry_of_answered_overlapping :
    (∀ task, Event.leaves task ∉ overlapping) ∧
    ((roomy plainPlan).run overlapping).Answered ∧
    ((roomy plainPlan).run overlapping).invocations.map (·.id) = ["b", "a"] ∧
    ((roomy plainPlan).run overlapping).sink.lines =
      (transcript (roomy plainPlan) overlapping).map Line.render ∧
    ∃ c, own 1 (completions (roomy plainPlan) overlapping) = [c] ∧
      (transcript (roomy plainPlan) overlapping).filter (·.id = c.id) =
        c.script plainPlan.settings ∧
      (c.script plainPlan.settings).map Line.render = c.lineTexts plainPlan.settings := by
  have patient : ∀ task, Event.leaves task ∉ overlapping := by simp [overlapping]
  obtain ⟨answered, ids, present⟩ : ((roomy plainPlan).run overlapping).Answered ∧
      ((roomy plainPlan).run overlapping).invocations.map (·.id) = ["b", "a"] ∧
      1 < ((roomy plainPlan).run overlapping).tasks.length := by
    decide +kernel
  have single : ∀ invocation ∈ ((roomy plainPlan).run overlapping).invocations,
      IsUnbroken invocation.id.toList := by
    intro invocation mem
    have hid : invocation.id ∈ ["b", "a"] := ids ▸ List.mem_map.2 ⟨invocation, mem, rfl⟩
    rcases List.mem_pair.1 hid with h | h <;> rw [h] <;> decide +kernel
  obtain ⟨shown, scripts, -⟩ := telemetry_of_answered plainPlan overlapping patient answered
    (ids ▸ by decide) single (by decide +kernel) (by decide +kernel)
  exact ⟨patient, answered, ids, shown overlapping [] rfl, scripts 1 present⟩

end FunctionHost.Endpoint
