-- SUMMARY: A task hands at most one invocation to the sandbox, made from what it was called with.
import FunctionHost.Proofs.Endpoint.Service

/-! # Invocations by task

A task invokes the sandbox when it is ready for it, and no way leads back to there: it goes on to
wait for the sandbox, to write its lines and to answer, or it goes away. So it hands over at most
one invocation, and this one is made from the call that the task came with. -/

namespace FunctionHost.Endpoint

open Telemetry (Line)

variable {e : Endpoint} {v : Event} {events : List Event} {task : Nat} {call : Call} {stage : Stage}

/-! ## One invocation for each task -/

/-- A stage that is reached by invoking the sandbox, or by going away. -/
def Stage.IsLate : Stage → Prop
  | .atGate => False
  | .ready _ => False
  | _ => True

theorem isLate_closingStage (lines : List Line) (answer : Http.Response) (pause : Nat) :
    (closingStage lines answer pause).IsLate := by
  simp only [closingStage, afterClosing]
  split
  · split <;> trivial
  · trivial

/-- A task has invoked the sandbox or has gone away. -/
def Late (e : Endpoint) (task : Nat) : Prop :=
  ∃ stage, e.stage? task = some stage ∧ stage.IsLate

theorem Late.move (h : e.Late task) (late : stage.IsLate) (mover : Nat) :
    (e.move mover stage).Late task := by
  obtain ⟨old, stands, hold⟩ := h
  by_cases same : task = mover
  · exact ⟨stage, by rw [stage?_move, if_pos same, stands, Option.map_some], late⟩
  · exact ⟨old, by rw [stage?_move_other same, stands], hold⟩

theorem Late.step (h : e.Late task) (gathered : e.Gathered) (v : Event) : (e.step v).Late task := by
  obtain ⟨old, stands, hold⟩ := h
  generalize he : e.step v = e'
  cases he ▸ transition e v with
  | idle => exact ⟨old, stands, hold⟩
  | arrives call =>
    refine ⟨old, ?_, hold⟩
    rw [stage?_arrive, if_neg (Nat.ne_of_lt (lt_length_of_stage? stands)), stands]
  | opens runner failure elapsed running =>
    -- Only those at the gate pass it.
    have hrunner : task ≠ runner := by
      rintro rfl
      cases stands.symm.trans (gathered.atGate_of_running running)
      exact hold
    have hwaits : task ∉ e.gate.waiting := by
      intro waits
      cases stands.symm.trans (gathered.atGate_of_waiting waits)
      exact hold
    refine ⟨old, ?_, hold⟩
    rw [stage?_startReturned, stands, Option.map_some, if_neg hrunner, if_neg hwaits]
  | invokes mover id call init =>
    have late : (Stage.invoking id init).IsLate := trivial
    exact Late.move ⟨old, stands, hold⟩ late mover
  | returns mover outcome draft elapsed id init =>
    exact Late.move ⟨old, stands, hold⟩ (isLate_closingStage _ _ _) mover
  | writes mover line rest answer pause =>
    exact Late.move ⟨old, stands, hold⟩ (isLate_closingStage _ _ _) mover
  | resumes mover answer =>
    have late : (Stage.answered answer).IsLate := trivial
    exact Late.move ⟨old, stands, hold⟩ late mover
  | departs mover =>
    have late : Stage.gone.IsLate := trivial
    exact Late.move ⟨old, stands, hold⟩ late mover

theorem Late.handed_eq_nil (h : e.Late task) (v : Event) : own task (handed e v) = [] := by
  obtain ⟨stage, stands, late⟩ := h
  cases v with
  | invokes mover id =>
    simp only [handed]
    split
    · next call init found =>
      refine own_single_other ?_ _
      rintro rfl
      cases stands.symm.trans (stage?_of_found found)
      exact late
    · rfl
  | arrives | startReturns | returns | writes | resumes | leaves => rfl

theorem Late.record_handed (h : e.Late task) (gathered : e.Gathered) (events : List Event) :
    own task (record handed e events) = [] := by
  induction events generalizing e with
  | nil => rfl
  | cons v rest ih =>
    rw [record, own_append, h.handed_eq_nil, ih (h.step gathered v) (gathered.step v),
      List.append_nil]

theorem late_of_handed (h : own task (handed e v) ≠ []) :
    (∃ invocation, own task (handed e v) = [invocation]) ∧ (e.step v).Late task := by
  cases v with
  | invokes mover id =>
    simp only [handed] at h ⊢
    split at h
    · next call init found =>
      by_cases same : task = mover
      · subst same
        refine ⟨⟨_, own_single_same _⟩, .invoking id init, ?_, trivial⟩
        have present : (e.stage? task).isSome := by simp [stage?_of_found found]
        simp only [step, found]
        exact stage?_move_same present
      · exact absurd (own_single_other same _) h
    · exact absurd rfl h
  | arrives | startReturns | returns | writes | resumes | leaves => exact absurd rfl h

/-- A task hands at most one invocation to the sandbox. -/
theorem length_handed_le_one (gathered : e.Gathered) (events : List Event) (task : Nat) :
    (own task (record handed e events)).length ≤ 1 := by
  induction events generalizing e with
  | nil => exact Nat.zero_le 1
  | cons v rest ih =>
    rw [record, own_append]
    by_cases hnow : own task (handed e v) = []
    · rw [hnow, List.nil_append]
      exact ih (gathered.step v)
    · obtain ⟨⟨invocation, hsingle⟩, late⟩ := late_of_handed hnow
      rw [hsingle, late.record_handed (gathered.step v), List.append_nil]
      exact Nat.le_refl 1

/-! ## What is handed to the sandbox -/

variable {invocation : Invocation}

theorem call?_run (h : e.call? task = some call) (events : List Event) :
    (e.run events).call? task = some call := by
  induction events generalizing e with
  | nil => exact h
  | cons v rest ih => exact ih (call?_step h v)

/-- An invocation is made from what its task was called with. -/
theorem exists_call_of_handed (h : (task, invocation) ∈ record handed e events) :
    ∃ call id, (e.run events).call? task = some call ∧
      invocation = Invocation.ofRequest e.plan.settings id call.headers call.payload := by
  induction events generalizing e with
  | nil => cases h
  | cons v rest ih =>
    rcases List.mem_append.1 h with now | later
    · cases v with
      | invokes mover id =>
        simp only [handed] at now
        split at now
        · next call init found =>
          cases List.mem_singleton.1 now
          have hcall : e.call? task = some call := by simp [call?, found]
          exact ⟨call, id, call?_run (call?_step hcall _) rest, rfl⟩
        · cases now
      | arrives | startReturns | returns | writes | resumes | leaves => cases now
    · obtain ⟨call, id, hcall, heq⟩ := ih later
      exact ⟨call, id, hcall, (transition e v).plan ▸ heq⟩

theorem own_handed_eq (gathered : e.Gathered)
    (h : (task, invocation) ∈ record handed e events) :
    own task (record handed e events) = [invocation] := by
  have hmem := mem_own.2 h
  have hlength := length_handed_le_one gathered events task
  match hown : own task (record handed e events) with
  | [] => rw [hown] at hmem; cases hmem
  | [only] =>
    rw [hown] at hmem
    rw [List.mem_singleton.1 hmem]
  | first :: second :: rest => rw [hown] at hlength; simp at hlength

end FunctionHost.Endpoint
