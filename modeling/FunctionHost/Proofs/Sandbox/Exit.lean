-- SUMMARY: Once the function has exited, every call that goes on is told so.
import FunctionHost.Proofs.Exchange.Fate
import FunctionHost.Proofs.Exchange.Ledger
import FunctionHost.Proofs.Sandbox.Course
import FunctionHost.Proofs.Sandbox.Start

/-! # The exit of the function, told to calls

After an exit was recorded, a call that has not brought its invocation yet is refused when it does,
and one that waits unanswered when everyone is told has the exit in its mail. Nothing but going
away keeps such a call from returning just that, as soon as it has taken its remaining steps. -/

namespace FunctionHost

namespace Traffic

open Exchange

/-- The mail tells only of exits that were recorded. -/
def Truthful (t : Traffic) : Prop :=
  ∀ i reason, (i, .exited reason) ∈ t.exchange.mail → reason ∈ t.reasons

variable {t : Traffic}

theorem Truthful.step (h : t.Truthful) {e : Event} (genuine : e.IsGenuine) :
    (t.step e).Truthful := by
  intro i reason hi
  cases shift_step t e with
  | keeps _ mail | registers _ _ _ _ mail | givesUp _ _ _ mail =>
    exact mem_reasons_step (h i reason (mail ▸ hi)) e
  | answers id reply ticket event _ _ mail =>
    rw [mail] at hi
    rcases List.mem_append.1 hi with hi | hi
    · exact mem_reasons_step (h i reason hi) e
    · obtain ⟨_, rfl⟩ : i = ticket ∧ .exited reason = reply := by simpa using hi
      subst event
      exact genuine.elim
  | tells exit r _ reported _ mail =>
    rw [mail] at hi
    refine mem_reasons_step ?_ e
    rcases List.mem_append.1 hi with hi | hi
    · exact h i reason hi
    · obtain ⟨_, _, heq⟩ := List.mem_map.1 hi
      cases heq
      exact List.mem_map_of_mem (List.mem_of_getElem? reported)

/-- Once an exit was recorded, one always is. -/
theorem exited_step (h : t.exchange.exitReason ≠ none) (e : Event) :
    (t.step e).exchange.exitReason ≠ none := by
  cases reports_step t e with
  | same _ exitReason | advances _ _ _ _ _ exitReason _ => rwa [exitReason]
  | begins reason document _ _ exitReason => simp [exitReason]

end Traffic

namespace Sandbox

open Exchange

variable {s : Sandbox} {e : Event} {call : Nat} {c : Call}

/-- A call that can only return that the function exited: it has not brought its invocation, or its
    mail tells of exits only, or it returned so. -/
inductive ExitBound (s : Sandbox) (c : Call) : Prop where
  | early (stage : c.stage = .reserved ∨ c.stage = .admitted)
  | mailed (ticket : Ticket) (stage : c.stage = .brought ticket)
      (mailed : s.traffic.messages ticket ≠ [])
      (told : ∀ reply ∈ s.traffic.messages ticket, ∃ reason ∈ s.traffic.reasons,
        reply = .exited reason)
  | returned (reason : String) (known : reason ∈ s.traffic.reasons)
      (stage : c.stage
        = .returned (.failed .invokeDoneFailed) (exitDraft c.invocation.id reason))

theorem mem_reasons_step {reason : String} (h : reason ∈ s.traffic.reasons) (e : Event) :
    reason ∈ (s.step e).traffic.reasons :=
  preserved_step (fun t => reason ∈ t.reasons) h
    (fun _ v _ known => Traffic.mem_reasons_step known v) (fun _ _ known => known) e

/-- A call that an exit reaches stays so while it stands where it stands and keeps its mail. -/
theorem ExitBound.keeps (h : s.ExitBound c) (e : Event)
    (mail : ¬ c.stage.IsOver → ∀ ticket, s.traffic.messages ticket ≠ [] →
      (s.step e).traffic.messages ticket = s.traffic.messages ticket) :
    (s.step e).ExitBound c := by
  cases h with
  | early stage => exact .early stage
  | mailed ticket stage mailed told =>
    have same := mail (by simp [stage, CallStage.IsOver]) ticket mailed
    refine .mailed ticket stage (by rwa [same]) ?_
    intro reply hreply
    rw [same] at hreply
    obtain ⟨reason, known, rfl⟩ := told reply hreply
    exact ⟨reason, mem_reasons_step known e, rfl⟩
  | returned reason known stage => exact .returned reason (mem_reasons_step known e) stage

/-- What a call does next that an exit reaches. -/
theorem ExitBound.act {stage : CallStage} {t : Traffic} (h : s.ExitBound c)
    (sound : s.traffic.Sound) (unfinished : ¬ c.stage.IsOver)
    (exited : s.exchange.exitReason ≠ none) (ready : s.exchange.phase = .ready)
    (act : s.Act call c e stage t) (stays : e ≠ .drops call) :
    (c.stage = .reserved ∧ stage = .admitted) ∨ ∃ reason ∈ s.traffic.reasons,
      stage = .returned (.failed .invokeDoneFailed) (exitDraft c.invocation.id reason) := by
  cases h with
  | returned reason known stage => simp [stage, CallStage.IsOver] at unfinished
  | early early =>
    cases act with
    | failsCheck _ failed => simp [ready] at failed
    | passesCheck reserved => exact .inl ⟨reserved, rfl⟩
    | isRefused now reason _ hexit => exact .inr ⟨reason, sound.known reason hexit, rfl⟩
    | enrolls _ _ running => exact absurd running exited
    | hears _ _ stage | hearsNothing _ stage | expires _ stage | forgets stage | withdraws stage =>
      simp [stage] at early
    | drops => exact absurd rfl stays
  | mailed ticket brought mailed told =>
    obtain ⟨reply, hreply⟩ := Option.ne_none_iff_exists'.1 (mt List.head?_eq_none_iff.1 mailed)
    obtain ⟨reason, known, rfl⟩ := told reply (List.mem_of_mem_head? hreply)
    exact .inr ⟨reason, known, act.answers brought hreply stays⟩

/-- An exit reaches a call until it returned, whatever happens but that the call goes away. -/
theorem ExitBound.step (h : s.ExitBound c) (orderly : s.Orderly)
    (exited : s.exchange.exitReason ≠ none) (ready : s.exchange.phase = .ready)
    (hc : s.calls[call]? = some c) (stays : e ≠ .drops call) :
    ∃ d, (s.step e).calls[call]? = some d ∧ d.invocation = c.invocation ∧
      (s.step e).ExitBound d ∧ s.progress c ≤ (s.step e).progress d := by
  rcases orderly.call_step hc e with ⟨still, mail⟩ | ⟨stage, unfinished, act, hmoved⟩
  · exact ⟨c, still, rfl, h.keeps e mail, progress_le orderly hc e⟩
  · refine ⟨_, hmoved, rfl, ?_⟩
    rcases h.act orderly.sound unfinished exited ready act stays with
      ⟨reserved, rfl⟩ | ⟨reason, known, rfl⟩
    · exact ⟨.early (.inr rfl), by simp [progress, reserved]⟩
    · exact ⟨.returned reason (mem_reasons_step known e) rfl, progress_le_five s c⟩

/-! ## Taking one's steps -/

/-- A call that an exit reaches makes progress with its next step. -/
theorem ExitBound.progress_lt (h : s.ExitBound c) (orderly : s.Orderly)
    (exited : s.exchange.exitReason ≠ none) (ready : s.exchange.phase = .ready)
    (hc : s.calls[call]? = some c) {now : Time.Instant}
    (next : (ownSteps call now)[s.progress c]? = some e) {d : Call}
    (hd : (s.step e).calls[call]? = some d) : s.progress c < (s.step e).progress d := by
  cases h with
  | mailed ticket brought mailed told =>
    obtain ⟨reply, hreply⟩ := Option.ne_none_iff_exists'.1 (mt List.head?_eq_none_iff.1 mailed)
    exact orderly.progress_lt_of_mail hc brought hreply next hd
  | returned reason known hstage =>
    simp only [progress, hstage] at next
    cases next
  | early early =>
    rcases early with hstage | hstage
    · simp only [progress, hstage] at next
      cases next
      rw [step_checks_of_unfailed hc hstage (by simp [ready]), calls_moveCall hc] at hd
      cases hd
      simp [progress, hstage]
    · simp only [progress, hstage] at next
      cases next
      obtain ⟨reason, hexit⟩ := Option.ne_none_iff_exists'.1 exited
      rw [step_brings_of_exited hc hstage now hexit] at hd ⊢
      obtain rfl : ⟨c.invocation, .returned (.failed .invokeDoneFailed) _⟩ = d :=
        Option.some.inj ((calls_moveCall (t := s.passing _) hc _).symm.trans hd)
      simp [progress, hstage]

theorem exited_step (h : s.exchange.exitReason ≠ none) (e : Event) :
    (s.step e).exchange.exitReason ≠ none :=
  preserved_step (fun t => t.exchange.exitReason ≠ none) h
    (fun _ v _ exited => Traffic.exited_step exited v) (fun _ _ exited => exited) e

theorem course_exitBound (call : Nat) (now : Time.Instant) :
    Course call
      (fun s c => s.exchange.exitReason ≠ none ∧ s.exchange.phase = .ready ∧ s.ExitBound c)
      progress (ownSteps call now) where
  goesOn s e c orderly hc holds stays := by
    obtain ⟨exited, ready, bound⟩ := holds
    obtain ⟨d, hd, hinvocation, hbound, hle⟩ := bound.step orderly exited ready hc stays
    have ready' := ((settles_step s e).of_decided (by simp [ready])).1.trans ready
    exact ⟨d, hd, hinvocation, ⟨exited_step exited e, ready', hbound⟩, hle,
      fun next => bound.progress_lt orderly exited ready hc next hd⟩

/-- A call that an exit reaches returns so as soon as it has taken its remaining steps. -/
theorem ExitBound.ends (h : s.ExitBound c) (orderly : s.Orderly)
    (exited : s.exchange.exitReason ≠ none) (ready : s.exchange.phase = .ready)
    (hc : s.calls[call]? = some c) {now : Time.Instant} {after : List Event}
    (steps : ((ownSteps call now).drop (s.progress c)).Sublist after)
    (stays : .drops call ∉ after) :
    ∃ reason ∈ (s.run after).traffic.reasons, (s.run after).returned? call
      = some (.failed .invokeDoneFailed, exitDraft c.invocation.id reason) := by
  obtain ⟨d, hd, hinvocation, ⟨-, -, bound⟩, ends⟩ :=
    (course_exitBound call now).run orderly hc ⟨exited, ready, h⟩ stays
  have done : 5 ≤ (s.run after).progress d := ends steps
  cases bound with
  | returned reason known stage =>
    exact ⟨reason, known, by simp [returned?, callStage?, hd, stage, hinvocation]⟩
  | early stage => rcases stage with stage | stage <;> simp [progress, stage] at done
  | mailed ticket brought => exact absurd done (Nat.not_le.2 (progress_brought_lt brought))

/-! ## Nobody is left waiting -/

end Sandbox

end FunctionHost
