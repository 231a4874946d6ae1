-- SUMMARY: The tasks that stand at the gate are those that carry out the start or wait for it, also if others go away.
import FunctionHost.Proofs.Endpoint.Step

/-! # Who stands at the gate

At any time the tasks at the gate are the one that carries out the start and those that wait for
it, each of them once. If one of them goes away, the others are still there, and one of them
carries out the start. So whoever stands at the gate passes it when the start returns. -/

namespace FunctionHost.Endpoint

/-- Everybody at the gate: whoever carries out the start, and then those who wait for it. -/
def gathering (e : Endpoint) : List Nat :=
  e.gate.runner.toList ++ e.gate.waiting

/-- Those at the gate are known to it, and one of them carries out the start. -/
structure Gathered (e : Endpoint) : Prop where
  nodup : e.gathering.Nodup
  atGate : ∀ task, task ∈ e.gathering ↔ e.stage? task = some .atGate
  led : e.gate.runner = none → e.gathering = []

variable {e : Endpoint} {task : Nat}

theorem Gathered.atGate_of_running (h : e.Gathered) (running : e.gate.runner = some task) :
    e.stage? task = some .atGate :=
  (h.atGate task).1 (List.mem_append_left _ (by simp [running]))

theorem Gathered.atGate_of_waiting (h : e.Gathered) (waits : task ∈ e.gate.waiting) :
    e.stage? task = some .atGate :=
  (h.atGate task).1 (List.mem_append_right _ waits)

theorem Gathered.fresh (plan : Plan) (sink : Telemetry.Sink) : (fresh plan sink).Gathered where
  nodup := List.nodup_nil
  atGate task := by simp [Endpoint.fresh, gathering, Gate.fresh, stage?]
  led _ := rfl

/-- Whoever comes to a closed gate joins those at the gate. -/
theorem Gathered.gathering_arrive (h : e.Gathered) (call : Call) :
    (e.arrive call).gathering =
      if e.gate.isOpen then e.gathering else e.gathering ++ [e.tasks.length] := by
  have hgate : (e.arrive call).gate = e.gate.enter e.tasks.length := rfl
  rw [gathering, hgate]
  cases hopen : e.gate.isOpen with
  | true => simp [Gate.enter, Gate.entry, hopen, gathering]
  | false =>
    cases hrunner : e.gate.runner with
    | none =>
      have hnobody := h.led hrunner
      rw [gathering, hrunner] at hnobody
      have hwaiting : e.gate.waiting = [] := hnobody
      simp [Gate.enter, Gate.entry, hopen, gathering, hrunner, hwaiting]
    | some runner => simp [Gate.enter, Gate.entry, hopen, gathering, hrunner]

theorem Gathered.arrive (h : e.Gathered) (call : Call) : (e.arrive call).Gathered := by
  have hnew : e.tasks.length ∉ e.gathering := by
    intro hmem
    have habsent := stage?_eq_none_iff.2 (Nat.le_refl e.tasks.length)
    rw [(h.atGate _).1 hmem] at habsent
    cases habsent
  have hgathering := h.gathering_arrive call
  constructor
  · rw [hgathering]
    split
    · exact h.nodup
    · refine List.nodup_append.2 ⟨h.nodup, by simp, ?_⟩
      rintro task hmem last hlast rfl
      obtain rfl := List.mem_singleton.1 hlast
      exact hnew hmem
  · intro task
    rw [hgathering, stage?_arrive]
    by_cases hlast : task = e.tasks.length
    · subst hlast
      cases e.gate.isOpen <;> simp [hnew]
    · cases e.gate.isOpen <;> simp [hlast, h.atGate]
  · intro hrunner
    rw [hgathering]
    have hgate : (e.gate.enter e.tasks.length).runner = none := hrunner
    split
    · next hopen =>
      refine h.led ?_
      simpa [Gate.enter, Gate.entry, hopen] using hgate
    · next hopen =>
      cases hold : e.gate.runner <;> simp [Gate.enter, Gate.entry, hopen, hold] at hgate

theorem Gathered.startReturned (h : e.Gathered) {runner : Caller}
    (running : e.gate.runner = some runner) (failure : Option String) (elapsed : Time.Span) :
    (e.startReturned runner failure elapsed).Gathered := by
  have hnobody : (e.startReturned runner failure elapsed).gathering = [] := by
    rw [gathering, startReturned_eq]
    rfl
  constructor
  · rw [hnobody]
    exact List.nodup_nil
  · intro task
    rw [hnobody, stage?_startReturned]
    refine ⟨fun hmem => absurd hmem List.not_mem_nil, fun hstage => ?_⟩
    obtain ⟨old, hold, hnew⟩ := Option.map_eq_some_iff.1 hstage
    split at hnew
    · cases hnew
    · next hother =>
      split at hnew
      · cases hnew
      · next hwaits =>
        -- Whoever stays where it was neither carried out the start nor waited.
        subst hnew
        have hmem := (h.atGate task).2 hold
        rw [gathering, running] at hmem
        rcases List.mem_append.1 hmem with hrunner | hwaiting
        · exact absurd (List.mem_singleton.1 hrunner) hother
        · exact absurd hwaiting hwaits
  · intro _
    exact hnobody

theorem closingStage_ne_atGate (lines : List Telemetry.Line) (answer : Http.Response)
    (pause : Nat) : closingStage lines answer pause ≠ .atGate := by
  simp only [closingStage, afterClosing]
  split
  · split <;> simp
  · simp

/-- A task that has passed the gate goes on to another stage. -/
theorem Gathered.move (h : e.Gathered) {e' : Endpoint} {old stage : Stage}
    (gate : e'.gate = e.gate) (tasks : e'.tasks = (e.move task stage).tasks)
    (stands : e.stage? task = some old) (passed : old ≠ .atGate) (stays : stage ≠ .atGate) :
    e'.Gathered := by
  have hgathering : e'.gathering = e.gathering := by rw [gathering, gate, gathering]
  have hstage (other : Nat) : e'.stage? other = (e.move task stage).stage? other := by
    rw [stage?, tasks, stage?]
  constructor
  · rw [hgathering]
    exact h.nodup
  · intro other
    rw [hgathering, h.atGate, hstage]
    by_cases hsame : other = task
    · subst hsame
      rw [stage?_move_same (by simp [stands]), stands]
      simp [passed, stays]
    · rw [stage?_move_other hsame]
  · intro hrunner
    rw [hgathering]
    exact h.led (gate ▸ hrunner)

/-- If somebody goes away, the others are still at the gate. -/
theorem Gathered.gathering_depart (h : e.Gathered) (task : Nat) :
    (e.depart task).gathering = e.gathering.filter (· ≠ task) := by
  have hgate : (e.depart task).gate = e.gate.leave task := rfl
  have hnodup := h.nodup
  rw [gathering] at hnodup
  rw [gathering, hgate, gathering, Gate.leave]
  split
  · next hrunner =>
    rw [hrunner] at hnodup ⊢
    have hother : task ∉ e.gate.waiting := (List.nodup_cons.1 hnodup).1
    have hkeep : e.gate.waiting.filter (· ≠ task) = e.gate.waiting := by
      refine List.filter_eq_self.2 fun other hmem => ?_
      simpa using fun heq : other = task => hother (heq ▸ hmem)
    rw [List.filter_append, hkeep]
    cases e.gate.waiting <;> simp
  · next hrunner =>
    have hkeep : e.gate.runner.toList.filter (· ≠ task) = e.gate.runner.toList := by
      refine List.filter_eq_self.2 fun other hmem => ?_
      simpa using fun heq : other = task => hrunner (heq ▸ Option.mem_toList.1 hmem)
    rw [List.filter_append, hkeep]

theorem Gathered.depart (h : e.Gathered) {stage : Stage} (stands : e.stage? task = some stage) :
    (e.depart task).Gathered := by
  have hgathering := h.gathering_depart task
  have hstage (other : Nat) :
      (e.depart task).stage? other = (e.move task .gone).stage? other := rfl
  constructor
  · rw [hgathering]
    exact h.nodup.filter _
  · intro other
    rw [hgathering, hstage, List.mem_filter, h.atGate]
    by_cases hsame : other = task
    · subst hsame
      rw [stage?_move_same (by simp [stands])]
      simp
    · rw [stage?_move_other hsame]
      simp [hsame]
  · intro hrunner
    have hgate : (e.gate.leave task).runner = none := hrunner
    rw [Gate.leave] at hgate
    rw [hgathering]
    split at hgate
    · next hsame =>
      rw [gathering, hsame]
      split at hgate
      · cases hgate
      · next hnobody => simp [hnobody]
    · rw [h.led hgate]
      rfl

theorem Gathered.step (h : e.Gathered) (v : Event) : (e.step v).Gathered := by
  generalize he : e.step v = e'
  cases he ▸ transition e v with
  | idle => exact h
  | arrives call => exact h.arrive call
  | opens runner failure elapsed running => exact h.startReturned running failure elapsed
  | invokes task id call init found =>
    exact h.move rfl rfl (stage?_of_found found) (by simp) (by simp)
  | returns task outcome draft elapsed id init stands =>
    exact h.move rfl rfl stands (by simp) (closingStage_ne_atGate _ _ _)
  | writes task line rest answer pause stands =>
    exact h.move rfl rfl stands (by simp) (closingStage_ne_atGate _ _ _)
  | resumes task answer stands => exact h.move rfl rfl stands (by simp) (by simp)
  | departs task stage stands => exact h.depart stands

theorem Gathered.run (h : e.Gathered) (events : List Event) : (e.run events).Gathered := by
  induction events generalizing e with
  | nil => exact h
  | cons v rest ih => exact ih (h.step v)

end FunctionHost.Endpoint
