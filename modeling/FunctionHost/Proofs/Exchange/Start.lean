-- SUMMARY: How the start of the function is decided, once and for all.
import FunctionHost.Proofs.Exchange.Waiting

/-! # The start of the function

Several events try to decide how the start went: the first of them does, and it is decided for
ever. -/

namespace FunctionHost

/-- How a start that was pending may be decided between two states of an exchange. It succeeds
    only if it was `marked` as ready. -/
inductive Exchange.Settles (marked : Prop) (x y : Exchange) : Prop where
  | same (phase : y.phase = x.phase) (startError : y.startError = x.startError)
  | readies (marked : marked) (pending : x.phase = .pending) (phase : y.phase = .ready)
      (startError : y.startError = x.startError)
  | fails (document : Bytes) (pending : x.phase = .pending) (phase : y.phase = .failed)
      (startError : y.startError = some document)

namespace Exchange.Settles

variable {p q : Prop} {x y z : Exchange}

theorem mono (h : Settles p x y) (sub : p → q) : Settles q x y := by
  cases h with
  | same phase startError => exact .same phase startError
  | readies marked pending phase startError => exact .readies (sub marked) pending phase startError
  | fails document pending phase startError => exact .fails document pending phase startError

/-- What is decided stays so. -/
theorem of_decided (h : Settles p x y) (decided : x.phase ≠ .pending) :
    y.phase = x.phase ∧ y.startError = x.startError := by
  cases h with
  | same phase startError => exact ⟨phase, startError⟩
  | readies _ pending _ _ => exact absurd pending decided
  | fails _ pending _ _ => exact absurd pending decided

theorem trans (h : Settles p x y) (h' : Settles p y z) : Settles p x z := by
  cases h with
  | same phase startError =>
    cases h' with
    | same phase' startError' => exact .same (phase'.trans phase) (startError'.trans startError)
    | readies marked pending phase' startError' =>
      exact .readies marked (phase ▸ pending) phase' (startError'.trans startError)
    | fails document pending phase' startError' =>
      exact .fails document (phase ▸ pending) phase' startError'
  | readies marked pending phase startError =>
    obtain ⟨phase', startError'⟩ := h'.of_decided (by simp [phase])
    exact .readies marked pending (phase'.trans phase) (startError'.trans startError)
  | fails document pending phase startError =>
    obtain ⟨phase', startError'⟩ := h'.of_decided (by simp [phase])
    exact .fails document pending (phase'.trans phase) (startError'.trans startError)

theorem markReady (x : Exchange) : Settles True x x.markReady := by
  by_cases pending : x.phase = .pending
  · exact .readies trivial pending (by simp [Exchange.markReady, pending])
      (by simp [Exchange.markReady, pending])
  · exact .same (by simp [Exchange.markReady, pending]) (by simp [Exchange.markReady, pending])

theorem failStart (x : Exchange) (document : Bytes) : Settles p x (x.failStart document) := by
  by_cases pending : x.phase = .pending
  · exact .fails document pending (by simp [Exchange.failStart, pending])
      (by simp [Exchange.failStart, pending])
  · exact .same (by simp [Exchange.failStart, pending]) (by simp [Exchange.failStart, pending])

end Exchange.Settles

namespace Traffic

open Exchange

theorem settles_step (t : Traffic) (e : Event) :
    Settles (e = .marksReady) t.exchange (t.step e).exchange := by
  cases e with
  | marksReady => exact (Settles.markReady t.exchange).mono fun _ => rfl
  | failsStart document => exact Settles.failStart t.exchange document
  | reports exit =>
    cases hr : t.exits[exit]? with
    | none => exact .same (by simp [step, hr]) (by simp [step, hr])
    | some r =>
      cases hstage : r.stage with
      | recorded =>
        have hstep : (t.step (.reports exit)).exchange = t.exchange.failStart r.document := by
          simp [step, hr, report, hstage]
        exact hstep ▸ Settles.failStart t.exchange r.document
      | failed =>
        exact .same (by simp [step, hr, report, hstage, drain])
          (by simp [step, hr, report, hstage, drain])
      | drained | cleared => constructor <;> simp only [step, hr, report, hstage] <;> rfl
  | brings q =>
    cases hexit : t.exchange.exitReason with
    | none =>
      have hstep := step_brings_of_running q hexit
      exact .same (by rw [hstep]) (by rw [hstep])
    | some reason =>
      have hstep := step_brings_of_exited q hexit
      exact .same (by rw [hstep]) (by rw [hstep])
  | replies id reply =>
    cases hwaits : t.exchange.waiting.get? id with
    | none =>
      have hstep := step_replies_of_none reply hwaits
      exact .same (by rw [hstep]) (by rw [hstep])
    | some ticket =>
      have hstep := step_replies_of_waits reply hwaits
      exact .same (by rw [hstep]) (by rw [hstep])
  | looks poller =>
    obtain ⟨queue, bell, exchange, _⟩ := looks_step t poller
    exact .same (by rw [exchange]) (by rw [exchange])
  | queues | rings | sleeps | leaves => constructor <;> simp only [step] <;> split <;> rfl
  | asks | forgets | withdraws | exits => exact .same rfl rfl

theorem settles_run (t : Traffic) (events : List Event) :
    Settles (.marksReady ∈ events) t.exchange (t.run events).exchange := by
  induction events generalizing t with
  | nil => exact .same rfl rfl
  | cons e rest ih =>
    apply ((settles_step t e).mono ?_).trans ((ih (t.step e)).mono ?_)
    · rintro rfl
      exact List.mem_cons_self
    · intro h
      exact List.mem_cons_of_mem _ h

end Traffic

end FunctionHost
