-- SUMMARY: Whoever takes all its own steps in order comes to its end, whatever others do in between.

/-! # Schedules

Somebody has a list of own steps to take, one after the other, and progress counts how many of them
were taken. No step of anybody lowers the progress, and the own step that comes next raises it. Once
the own steps that were left have occurred in their order, with anything in between, there is
nothing left to do. -/

namespace FunctionHost.Schedule

variable {σ ε : Type} {step : σ → ε → σ} {Holds : σ → Prop} {Fair : ε → Prop}
  {progress : σ → Nat} {own : List ε}

/-- How one step goes together with own steps: it preserves what is assumed of the states, loses
    nothing of what was done, and goes on if it is the own step that comes next. -/
structure Advances (step : σ → ε → σ) (Holds : σ → Prop) (Fair : ε → Prop) (progress : σ → Nat)
    (own : List ε) : Prop where
  preserves : ∀ s e, Holds s → Fair e → Holds (step s e)
  keeps : ∀ s e, Holds s → Fair e → progress s ≤ progress (step s e)
  raises : ∀ s e, Holds s → Fair e → own[progress s]? = some e → progress s < progress (step s e)

theorem Advances.preserves_all (h : Advances step Holds Fair progress own) {s : σ} (holds : Holds s)
    {events : List ε} (fair : ∀ e ∈ events, Fair e) : Holds (events.foldl step s) := by
  induction events generalizing s with
  | nil => exact holds
  | cons e rest ih =>
    obtain ⟨hfirst, hrest⟩ := List.forall_mem_cons.1 fair
    exact ih (h.preserves s e holds hfirst) hrest

/-- The own steps that are left after an event are among those that are left of the schedule. -/
theorem Advances.remaining (h : Advances step Holds Fair progress own) {s : σ} (holds : Holds s)
    {e : ε} (fair : Fair e) {rest : List ε} (steps : (own.drop (progress s)).Sublist (e :: rest)) :
    (own.drop (progress (step s e))).Sublist rest := by
  rcases List.sublist_cons_iff.1 steps with skipped | ⟨others, hnext, hothers⟩
  · exact (List.drop_sublist_drop_left _ (h.keeps s e holds fair)).trans skipped
  · have next : own[progress s]? = some e := by
      rw [← List.head?_drop, hnext]
      rfl
    have hlater : own.drop (progress s + 1) = others := by
      rw [← List.tail_drop, hnext]
      rfl
    have raised := h.raises s e holds fair next
    exact (List.drop_sublist_drop_left _ raised).trans (hlater ▸ hothers)

/-- Once the own steps that were left have occurred in their order, all of them were taken. -/
theorem Advances.completes (h : Advances step Holds Fair progress own) {s : σ} (holds : Holds s)
    {events : List ε} (fair : ∀ e ∈ events, Fair e)
    (steps : (own.drop (progress s)).Sublist events) :
    own.length ≤ progress (events.foldl step s) := by
  induction events generalizing s with
  | nil => exact List.drop_eq_nil_iff.1 (List.sublist_nil.1 steps)
  | cons e rest ih =>
    obtain ⟨hfirst, hrest⟩ := List.forall_mem_cons.1 fair
    exact ih (h.preserves s e holds hfirst) hrest (h.remaining holds hfirst steps)

end FunctionHost.Schedule
