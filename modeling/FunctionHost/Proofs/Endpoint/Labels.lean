-- SUMMARY: What an endpoint reports of its settings, and which of it the function sees.
import FunctionHost.Proofs.Endpoint.Handed
import FunctionHost.Proofs.Endpoint.Restart
import FunctionHost.Proofs.Startup.Descriptor

/-! # Labels

Whatever happens at an endpoint, also when clients go away, its lines and its invocations are
labelled with the settings of its plan, and each invocation has a first line of its own. The
function sees the name and the version of these settings. The memory size it sees is the one of
the environment, which need not be the one that is reported. -/

namespace FunctionHost.Endpoint

open Telemetry (Line)

variable {e : Endpoint} {v : Event} {events : List Event} {task : Nat} {stage : Stage}
  {settings : Settings} {invocation : Invocation}

/-! ## Closing lines -/

/-- A line that closes an invocation, with the memory size of some settings. -/
def ClosingLine (settings : Settings) : Line → Prop
  | .started .. => False
  | .ended _ => True
  | .report _ _ _ memory => memory = settings.memory

/-- All that is left to write at a stage are closing lines. -/
def Stage.Closes (settings : Settings) : Stage → Prop
  | .closing lines _ _ => ∀ l ∈ lines, ClosingLine settings l
  | _ => True

/-- All that is left to write at an endpoint are closing lines. -/
def Closing (e : Endpoint) : Prop :=
  ∀ task stage, e.stage? task = some stage → stage.Closes e.plan.settings

theorem closingLine_of_closing {id : String} {init : Option Number.Binary64}
    {elapsed limit : Time.Span} {l : Line}
    (h : l ∈ Telemetry.closing id init settings.memory elapsed limit) : ClosingLine settings l := by
  rcases List.mem_cons.1 h with rfl | h
  · trivial
  · cases List.mem_singleton.1 h
    rfl

theorem closes_closingStage {lines : List Line} (h : ∀ l ∈ lines, ClosingLine settings l)
    (answer : Http.Response) (pause : Nat) : (closingStage lines answer pause).Closes settings := by
  simp only [closingStage, afterClosing]
  split
  · split <;> trivial
  · exact h

theorem Closing.move (h : e.Closing) (closes : stage.Closes e.plan.settings) (task : Nat) :
    (e.move task stage).Closing := by
  intro other found stands
  by_cases same : other = task
  · rw [stage?_move, if_pos same] at stands
    obtain ⟨old, -, rfl⟩ := Option.map_eq_some_iff.1 stands
    exact closes
  · rw [stage?_move_other same] at stands
    exact h other found stands

theorem Closing.step (h : e.Closing) (v : Event) : (e.step v).Closing := by
  generalize he : e.step v = e'
  cases he ▸ transition e v with
  | idle => exact h
  | arrives call =>
    intro task stage stands
    rw [stage?_arrive] at stands
    split at stands
    · cases stands
      split <;> trivial
    · exact h task stage stands
  | opens runner failure elapsed running =>
    intro task stage stands
    rw [stage?_startReturned] at stands
    obtain ⟨old, found, rfl⟩ := Option.map_eq_some_iff.1 stands
    rw [(Transition.opens runner failure elapsed running).plan]
    split
    · trivial
    · split
      · trivial
      · exact h task old found
  | invokes task id call init =>
    have closes : (Stage.invoking id init).Closes e.plan.settings := trivial
    exact h.move closes task
  | returns task outcome draft elapsed id init =>
    refine h.move (closes_closingStage ?_ _ _) task
    split
    · exact fun l hl => closingLine_of_closing hl
    · exact fun l hl => absurd hl List.not_mem_nil
  | writes task line rest answer pause stands =>
    have left := h task _ stands
    exact h.move (closes_closingStage (fun l hl => left l (List.mem_cons_of_mem _ hl)) answer pause)
      task
  | resumes task answer =>
    have closes : (Stage.answered answer).Closes e.plan.settings := trivial
    exact h.move closes task
  | departs task =>
    have closes : Stage.gone.Closes e.plan.settings := trivial
    exact h.move closes task

theorem Closing.fresh (plan : Plan) (sink : Telemetry.Sink) : (fresh plan sink).Closing := by
  intro task stage stands
  simp [Endpoint.fresh, stage?] at stands

/-! ## First lines -/

/-- Whether a line is the first one about an invocation. -/
def isFirst : Line → Bool
  | .started .. => true
  | _ => false

/-- The first line about an invocation. -/
def firstLine (settings : Settings) (invocation : Invocation) : Line :=
  .started invocation.id settings.version

theorem ClosingLine.isFirst_eq {l : Line} (h : ClosingLine settings l) : isFirst l = false := by
  cases l with
  | started => exact h.elim
  | ended | report => rfl

/-- A first line is written exactly when an invocation is handed to the sandbox. -/
theorem Closing.first_written (h : e.Closing) (v : Event) :
    (written e v).filter (fun entry => isFirst entry.2) =
      (handed e v).map fun entry => (entry.1, firstLine e.plan.settings entry.2) := by
  cases v with
  | invokes task id =>
    cases hfound : e.tasks[task]? with
    | none => simp [written, handed, stage?, hfound]
    | some t =>
      obtain ⟨call, stage⟩ := t
      cases stage <;> simp [written, handed, stage?, hfound, isFirst, firstLine,
        Invocation.ofRequest]
  | writes task =>
    simp only [written, handed]
    split
    · next line rest answer pause stands =>
      have closing : ClosingLine e.plan.settings line := h task _ stands line List.mem_cons_self
      simp [closing.isFirst_eq]
    · rfl
  | arrives | startReturns | returns | resumes | leaves => rfl

theorem Closing.first_journal (h : e.Closing) (events : List Event) :
    (journal e events).filter (fun entry => isFirst entry.2) =
      (record handed e events).map fun entry => (entry.1, firstLine e.plan.settings entry.2) := by
  induction events generalizing e with
  | nil => rfl
  | cons v rest ih =>
    have later := ih (h.step v)
    rw [(transition e v).plan] at later
    simp only [journal, record, List.filter_append, List.map_append] at later ⊢
    rw [h.first_written, later]

/-- The first lines of a task are those of the invocations that it hands to the sandbox. -/
theorem Closing.first_own (h : e.Closing) (events : List Event) (task : Nat) :
    (own task (journal e events)).filter isFirst =
      (own task (record handed e events)).map (firstLine e.plan.settings) := by
  rw [← own_filter, h.first_journal, own_map_snd]

/-! ## Labels -/

/-- A line is labelled with settings. -/
def Labelled (settings : Settings) : Line → Prop
  | .started _ version => version = settings.version
  | .ended _ => True
  | .report _ _ _ memory => memory = settings.memory

theorem ClosingLine.labelled {l : Line} (h : ClosingLine settings l) : Labelled settings l := by
  cases l with
  | started => exact h.elim
  | ended => trivial
  | report => exact h

theorem Closing.labelled_written (h : e.Closing) {l : Line} (hl : (task, l) ∈ written e v) :
    Labelled e.plan.settings l := by
  cases v with
  | invokes mover id =>
    simp only [written] at hl
    split at hl
    · cases List.mem_singleton.1 hl
      rfl
    · cases hl
  | writes mover =>
    simp only [written] at hl
    split at hl
    · next line rest answer pause stands =>
      cases List.mem_singleton.1 hl
      exact (h task _ stands _ List.mem_cons_self).labelled
    · cases hl
  | arrives | startReturns | returns | resumes | leaves => cases hl

theorem Closing.labelled_journal (h : e.Closing) {l : Line} (hl : (task, l) ∈ journal e events) :
    Labelled e.plan.settings l := by
  induction events generalizing e with
  | nil => cases hl
  | cons v rest ih =>
    rcases List.mem_append.1 hl with now | later
    · exact h.labelled_written now
    · exact (transition e v).plan ▸ ih (h.step v) later

/-! ## What the function sees -/

/-- The environment that the function of a plan starts with. -/
def functionEnvironment (plan : Plan) (api : Net.SocketAddress) : Environment :=
  plan.call.descriptor.functionEnvironment api

theorem starts_eq_call (plan : Plan) (sink : Telemetry.Sink) (events : List Event)
    {start : StartCall} (h : start ∈ ((fresh plan sink).run events).starts) :
    start = plan.call := by
  rw [(counted_run plan sink events).calls, plan_run] at h
  exact List.eq_of_mem_replicate h

theorem arn_of_invocation (plan : Plan) (sink : Telemetry.Sink) (events : List Event)
    (h : invocation ∈ ((fresh plan sink).run events).invocations) :
    invocation.arn = plan.settings.arn := by
  rw [handed_run] at h
  have taken : invocation ∈ (record handed (fresh plan sink) events).map (·.2) :=
    (List.mem_append.1 h).resolve_left List.not_mem_nil
  obtain ⟨⟨task, _⟩, hmem, rfl⟩ := List.mem_map.1 taken
  obtain ⟨call, id, -, heq⟩ := exists_call_of_handed hmem
  rw [heq]
  rfl

/-- Settings that were taken from an environment have its memory size exactly if it defines one. -/
theorem memory_loaded_iff {env : Environment} (loaded : Settings.load env = .ok settings) :
    env.get? "AWS_LAMBDA_FUNCTION_MEMORY_SIZE" = some settings.memory ↔
      (env.nonEmpty? "AWS_LAMBDA_FUNCTION_MEMORY_SIZE").isSome := by
  have memory := (Settings.load_eq_ok_iff.1 loaded).memory
  unfold Environment.nonEmpty? at memory ⊢
  cases given : env.get? "AWS_LAMBDA_FUNCTION_MEMORY_SIZE" with
  | none => simp
  | some value =>
    rw [given] at memory
    by_cases empty : value = ""
    · -- The settings keep their default, and the function sees the empty text.
      subst empty
      have ne : "" ≠ settings.memory := by
        rw [memory]
        decide
      simp [ne]
    · rw [Option.filter_some, if_pos (by simpa using empty)] at memory ⊢
      rw [memory]
      simp

/-- Whatever happens at an endpoint, the function sees the name that stands in the resource name of
    its invocations and the version that stands on the first lines about them. It sees the memory
    size of the environment, while reports show the one of the settings. Where the settings were
    taken from this environment, the two are the same exactly if it sets the memory size to more
    than the empty text. The lines are those that the sink gets. -/
theorem function_sees (plan : Plan) (sink : Telemetry.Sink) (events : List Event)
    (api : Net.SocketAddress) :
    let env := functionEnvironment plan api
    RecordShown (fresh plan sink) events ∧
    (∀ start ∈ ((fresh plan sink).run events).starts,
      start.descriptor.functionEnvironment api = env) ∧
    -- The name is the one in the resource name of every invocation.
    env.get? "AWS_LAMBDA_FUNCTION_NAME" = some plan.settings.name ∧
    (∀ invocation ∈ ((fresh plan sink).run events).invocations,
      invocation.arn = Settings.resource ++ plan.settings.name) ∧
    -- The version is the one on every first line.
    env.get? "AWS_LAMBDA_FUNCTION_VERSION" = some plan.settings.version ∧
    (∀ task id version, (task, .started id version) ∈ journal (fresh plan sink) events →
      version = plan.settings.version) ∧
    -- The memory size is the one of the environment, and reports show the one of the settings.
    env.get? "AWS_LAMBDA_FUNCTION_MEMORY_SIZE" =
      plan.environment.get? "AWS_LAMBDA_FUNCTION_MEMORY_SIZE" ∧
    (∀ task id init duration memory,
      (task, .report id init duration memory) ∈ journal (fresh plan sink) events →
        memory = plan.settings.memory) ∧
    (Settings.load plan.environment = .ok plan.settings →
      (env.get? "AWS_LAMBDA_FUNCTION_MEMORY_SIZE" = some plan.settings.memory ↔
        (plan.environment.nonEmpty? "AWS_LAMBDA_FUNCTION_MEMORY_SIZE").isSome)) := by
  intro env
  have closing := Closing.fresh plan sink
  have memory : env.get? "AWS_LAMBDA_FUNCTION_MEMORY_SIZE" =
      plan.environment.get? "AWS_LAMBDA_FUNCTION_MEMORY_SIZE" :=
    Descriptor.get?_functionEnvironment_other _ api rfl
  refine ⟨recordShown _ _, ?_, ?_, ?_, ?_, ?_, memory, ?_, ?_⟩
  · intro start hstart
    rw [starts_eq_call plan sink events hstart]
    rfl
  · exact Descriptor.get?_functionEnvironment _ api "AWS_LAMBDA_FUNCTION_NAME"
  · exact fun invocation hmem => arn_of_invocation plan sink events hmem
  · exact Descriptor.get?_functionEnvironment _ api "AWS_LAMBDA_FUNCTION_VERSION"
  · exact fun task id version hl => closing.labelled_journal hl
  · exact fun task id init duration memory hl => closing.labelled_journal hl
  · intro loaded
    rw [memory]
    exact memory_loaded_iff loaded

/-- One request, from its arrival to the report about it. -/
def reported : List Event :=
  [.arrives ⟨⟨[]⟩, []⟩, .startReturns none (.ofSeconds 1), .invokes 0 "a",
    .returns 0 .served .blank (.ofSeconds 1), .writes 0, .writes 0]

/-- The memory sizes on the reports of a run. -/
def reportedMemory (plan : Plan) (events : List Event) : List String :=
  (journal (fresh plan .unlimited) events).filterMap fun
    | (_, .report _ _ _ memory) => some memory
    | _ => none

theorem function_sees_default :
    let plan : Plan := ⟨.default, .default, .external⟩
    Settings.load plan.environment = .ok plan.settings ∧
      (functionEnvironment plan (.loopback 9001)).get? "AWS_LAMBDA_FUNCTION_MEMORY_SIZE" =
        some plan.settings.memory := by
  intro plan
  have loaded : Settings.load plan.environment = .ok plan.settings := by decide +kernel
  obtain ⟨-, -, -, -, -, -, -, -, same⟩ := function_sees plan .unlimited reported (.loopback 9001)
  exact ⟨loaded, (same loaded).2 (by decide +kernel)⟩

/-- The memory size that the function sees need not be the one on the report, neither when the
    settings were put together by hand nor when they were taken from the environment. -/
theorem function_sees_other_memory :
    let built : Plan := ⟨{ Settings.default with memory := "512" }, .default, .external⟩
    let emptied := Environment.ofEntries ["AWS_LAMBDA_FUNCTION_MEMORY_SIZE="]
    let loaded : Plan := ⟨.default, emptied, .external⟩
    -- Built by hand: the report shows 512, and the function sees 3008.
    reportedMemory built reported = ["512"] ∧
    (functionEnvironment built (.loopback 9001)).get? "AWS_LAMBDA_FUNCTION_MEMORY_SIZE" =
      some "3008" ∧
    -- Taken from the environment: the report shows 3008, and the function sees the empty text.
    Settings.load emptied = .ok .default ∧
    reportedMemory loaded reported = ["3008"] ∧
    (functionEnvironment loaded (.loopback 9001)).get? "AWS_LAMBDA_FUNCTION_MEMORY_SIZE" =
      some "" := by
  intro built emptied loaded
  refine ⟨?_, ?_, ?_, ?_, ?_⟩ <;> decide +kernel

end FunctionHost.Endpoint
