-- SUMMARY: Of all the operations that could decide how the start went, the first one does.
import FunctionHost.Proofs.Exchange.Run

/-! # The verdict on the start

A start is decided by the function that asks for its first invocation, by a failure, or by the
exit of the function, whichever comes first. Phase and document are both read off this verdict at
any time, so that they never disagree, and whoever comes later changes neither of them. -/

namespace FunctionHost.Exchange

/-- How a start was decided: it succeeded, or it failed as a document explains. -/
inductive Verdict where
  | ready
  | failed (document : Bytes)
  deriving DecidableEq

/-- How far a start has come that has a verdict, or has none yet. -/
def Verdict.phase : Option Verdict → Phase
  | none => .pending
  | some .ready => .ready
  | some (.failed _) => .failed

/-- The document that goes with a verdict. -/
def Verdict.document? : Option Verdict → Option Bytes
  | some (.failed document) => some document
  | _ => none

/-- The verdict that an operation gives on a start that is pending. -/
def verdict? : Operation → Option Verdict
  | .markReady => some .ready
  | .failStart document => some (.failed document)
  | .exit _ document => some (.failed document)
  | _ => none

/-- The verdict of the first of some operations that gives one. -/
def firstVerdict? (ops : List Operation) : Option Verdict :=
  ops.findSome? verdict?

/-- An operation that says whether it decided the start. -/
def Operation.IsVerdict (op : Operation) : Prop :=
  op = .markReady ∨ ∃ document, op = .failStart document

/-- An exchange stands as a verdict says, in every respect. -/
structure Shows (x : Exchange) (verdict : Option Verdict) : Prop where
  phase : x.phase = Verdict.phase verdict
  startError : x.startError = Verdict.document? verdict

variable {x : Exchange} {op : Operation} {verdict : Option Verdict}

/-! ## Verdicts -/

@[simp] theorem Verdict.phase_eq_pending : Verdict.phase verdict = .pending ↔ verdict = none := by
  rcases verdict with _ | _ | _ <;> simp [Verdict.phase]

theorem firstVerdict?_cons (op : Operation) (rest : List Operation) :
    firstVerdict? (op :: rest) = (verdict? op).or (firstVerdict? rest) := by
  cases hop : verdict? op <;> simp [firstVerdict?, hop]

/-! ## One operation -/

theorem Shows.fresh : fresh.Shows none := ⟨rfl, rfl⟩

/-- A failure counts if there is no verdict yet, and otherwise changes nothing. -/
theorem Shows.failStart (h : x.Shows verdict) (document : Bytes) :
    (x.failStart document).Shows (verdict.or (some (.failed document))) := by
  cases verdict with
  | none =>
    have pending : x.phase = .pending := h.phase
    constructor <;> simp [Exchange.failStart, pending, Verdict.phase, Verdict.document?]
  | some first =>
    have decided : x.phase ≠ .pending := by simp [h.phase]
    simpa [Exchange.failStart, decided] using h

theorem Shows.markReady (h : x.Shows verdict) :
    x.markReady.Shows (verdict.or (some .ready)) := by
  cases verdict with
  | none =>
    have pending : x.phase = .pending := h.phase
    have nothing : x.startError = none := h.startError
    constructor <;> simp [Exchange.markReady, pending, nothing, Verdict.phase, Verdict.document?]
  | some first =>
    have decided : x.phase ≠ .pending := by simp [h.phase]
    simpa [Exchange.markReady, decided] using h

theorem Shows.poll (h : x.Shows verdict) (p : Poller) : (x.poll p).2.Shows verdict := by
  cases hqueue : x.queue with
  | nil =>
    rw [poll_of_nil hqueue]
    exact ⟨h.phase, h.startError⟩
  | cons q rest =>
    rw [poll_of_cons hqueue]
    exact ⟨h.phase, h.startError⟩

/-- An operation decides the start if it gives a verdict and there was none. -/
theorem Shows.perform (h : x.Shows verdict) (op : Operation) :
    (x.perform op).1.Shows (verdict.or (verdict? op)) := by
  have keeps {y : Exchange} (still : y.Shows verdict) : y.Shows (verdict.or none) := by
    rwa [Option.or_none]
  cases op with
  | markReady => exact h.markReady
  | failStart document => exact h.failStart document
  | exit reason document =>
    have recorded : (x.recordExit reason).Shows verdict := ⟨h.phase, h.startError⟩
    have failed := recorded.failStart document
    exact ⟨failed.phase, failed.startError⟩
  | enqueue q ticket =>
    cases hexit : x.exitReason with
    | some reason =>
      rw [perform_enqueue_of_exited hexit]
      exact keeps h
    | none =>
      rw [perform_enqueue_of_running hexit]
      exact keeps ⟨h.phase, h.startError⟩
  | poll p => exact keeps (h.poll p)
  | retry p =>
    have looking : ({ x with bell := x.bell.look p } : Exchange).Shows verdict :=
      ⟨h.phase, h.startError⟩
    exact keeps (looking.poll p)
  | reply id reply =>
    cases hwaits : x.waiting.get? id with
    | none =>
      rw [perform_reply_of_unawaited hwaits]
      exact keeps h
    | some ticket =>
      rw [perform_reply_of_waits hwaits]
      exact keeps ⟨h.phase, h.startError⟩
  | abandon id => exact keeps ⟨h.phase, h.startError⟩

/-! ## Whole runs -/

/-- The first verdict of a run is the one that stays. -/
theorem Shows.performAll (h : x.Shows verdict) (ops : List Operation) :
    (x.performAll ops).1.Shows (verdict.or (firstVerdict? ops)) := by
  induction ops generalizing x verdict with
  | nil => simpa [firstVerdict?] using h
  | cons op rest ih =>
    rw [firstVerdict?_cons, ← Option.or_assoc]
    exact ih (h.perform op)

/-- What was decided stays so. -/
theorem Shows.stays (h : x.Shows verdict) (decided : x.phase ≠ .pending) (more : List Operation) :
    (x.performAll more).1.phase = x.phase ∧ (x.performAll more).1.startError = x.startError := by
  have later := h.performAll more
  cases verdict with
  | none => exact absurd h.phase decided
  | some first =>
    exact ⟨later.phase.trans h.phase.symm, later.startError.trans h.startError.symm⟩

/-- An operation says that it decided the start if there was no verdict before it. -/
theorem Shows.result (h : x.Shows verdict) (decides : op.IsVerdict) :
    (x.perform op).2 = .settled (verdict = none) := by
  rcases decides with rfl | ⟨document, rfl⟩ <;> simp [Exchange.perform, h.phase]

end FunctionHost.Exchange
