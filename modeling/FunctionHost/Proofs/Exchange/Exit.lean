-- SUMMARY: How the exit of the function reaches everyone who waits for a reply.
import FunctionHost.Proofs.Exchange.Waiting

/-! # The exit of the function, told to those who wait

Recording an exit comes before telling those who wait. From the moment it is recorded nobody can
register any more, so that telling everyone once is enough: nobody waits afterwards. -/

namespace FunctionHost.Traffic

open Exchange

/-! ## Reports of exits -/

/-- What a report comes to next. -/
def nextStage : Reporting → Reporting
  | .recorded => .failed
  | .failed => .drained
  | .drained => .cleared
  | .cleared => .cleared

/-- How an event changes the reports of exits: one more begins, or one takes its next step. -/
inductive Reports (t : Traffic) (e : Event) : Prop where
  | same (exits : (t.step e).exits = t.exits)
      (exitReason : (t.step e).exchange.exitReason = t.exchange.exitReason)
  | begins (reason : String) (document : Bytes) (event : e = .exits reason document)
      (exits : (t.step e).exits = t.exits ++ [⟨reason, document, .recorded⟩])
      (exitReason : (t.step e).exchange.exitReason = some reason)
  | advances (exit : Nat) (r : ExitReport) (event : e = .reports exit)
      (reported : t.exits[exit]? = some r)
      (exits : (t.step e).exits = t.exits.set exit { r with stage := nextStage r.stage })
      (exitReason : (t.step e).exchange.exitReason = t.exchange.exitReason)
      (tells : r.stage = .failed → (t.step e).exchange.waiting = .empty)

theorem reports_step (t : Traffic) (e : Event) : t.Reports e := by
  cases e with
  | exits reason document => exact .begins reason document rfl rfl rfl
  | reports exit =>
    cases hr : t.exits[exit]? with
    | none => exact .same (by simp [step, hr]) (by simp [step, hr])
    | some r =>
      cases hstage : r.stage with
      | recorded =>
        refine .advances exit r rfl hr (by simp [step, hr, report, hstage, nextStage]) ?_
          (by simp [hstage])
        simp only [step, hr, report, hstage, failStart]
        split <;> rfl
      | failed =>
        exact .advances exit r rfl hr (by simp [step, hr, report, hstage, nextStage])
          (by simp [step, hr, report, hstage, drain])
          (fun _ => by simp [step, hr, report, hstage, drain])
      | drained | cleared =>
        exact .advances exit r rfl hr (by simp [step, hr, report, hstage, nextStage])
          (by simp [step, hr, report, hstage, clear]) (by simp [hstage])
  | brings q =>
    cases hexit : t.exchange.exitReason with
    | none =>
      have hstep := step_brings_of_running q hexit
      exact .same (by rw [hstep]) (by rw [hstep])
    | some reason =>
      have hstep := step_brings_of_exited q hexit
      exact .same (by rw [hstep]) (by rw [hstep])
  | replies id reply =>
    cases hwaits : t.exchange.waiting.get? id with
    | none =>
      have hstep := step_replies_of_none reply hwaits
      exact .same (by rw [hstep]) (by rw [hstep])
    | some ticket =>
      have hstep := step_replies_of_waits reply hwaits
      exact .same (by rw [hstep]) (by rw [hstep])
  | looks poller =>
    obtain ⟨queue, bell, exchange, _, exits⟩ := looks_step t poller
    exact .same exits (by rw [exchange])
  | queues | rings | sleeps | leaves => constructor <;> simp only [step] <;> split <;> rfl
  | marksReady => exact .same rfl (by simp only [step, markReady]; split <;> rfl)
  | failsStart => exact .same rfl (by simp only [step, failStart]; split <;> rfl)
  | asks | withdraws | forgets => exact .same rfl rfl

/-- A report that takes its next step keeps everything but its stage. -/
theorem map_advance {α : Type} (view : ExitReport → α)
    (still : ∀ r stage, view { r with stage } = view r) {exits : List ExitReport} {exit : Nat}
    {r : ExitReport} (h : exits[exit]? = some r) (stage : Reporting) :
    (exits.set exit { r with stage }).map view = exits.map view := by
  obtain ⟨hlt, rfl⟩ := List.getElem?_eq_some_iff.1 h
  have hself : (exits.map view).set exit (view exits[exit]) = exits.map view := by
    rw [← List.getElem_map view (h := by simpa using hlt), List.set_getElem_self]
  rw [List.map_set, still, hself]

/-- Reasons are never taken back. -/
theorem mem_reasons_step {t : Traffic} {reason : String} (h : reason ∈ t.reasons) (e : Event) :
    reason ∈ (t.step e).reasons := by
  cases reports_step t e with
  | same exits _ => rwa [reasons, exits]
  | begins reason' document _ exits _ =>
    rw [reasons, exits, List.map_append]
    exact List.mem_append_left _ h
  | advances exit r _ reported exits _ _ =>
    rwa [reasons, exits, map_advance ExitReport.reason (fun _ _ => rfl) reported]

theorem mem_reasons_run {t : Traffic} {reason : String} (h : reason ∈ t.reasons)
    (events : List Event) : reason ∈ (t.run events).reasons := by
  induction events generalizing t with
  | nil => exact h
  | cons e rest ih => exact ih (mem_reasons_step h e)

/-- The reasons and the documents of the exits that were recorded. -/
def recorded (t : Traffic) : List (String × Bytes) :=
  t.exits.map fun r => (r.reason, r.document)

/-- The reason and the document of an exit that an event records. -/
def Event.recorded? : Event → Option (String × Bytes)
  | .exits reason document => some (reason, document)
  | _ => none

theorem recorded_step_of_none (t : Traffic) {e : Event} (h : e.recorded? = none) :
    (t.step e).recorded = t.recorded := by
  cases reports_step t e with
  | same exits _ => rw [recorded, exits, recorded]
  | begins reason document event _ _ =>
    rw [event] at h
    cases h
  | advances exit r _ reported exits _ _ =>
    rw [recorded, exits, map_advance _ (fun _ _ => rfl) reported, recorded]

/-- A report that makes a pending start fail leaves its document. -/
theorem startError_of_reports {t : Traffic} {exit : Nat} {r : ExitReport}
    (reported : t.exits[exit]? = some r) (pending : t.exchange.phase = .pending)
    (failed : (t.step (.reports exit)).exchange.phase = .failed) :
    (t.step (.reports exit)).exchange.startError = some r.document := by
  cases hstage : r.stage with
  | recorded => simp [step, reported, report, hstage, failStart, pending]
  | failed | drained | cleared =>
    simp [step, reported, report, hstage, drain, clear, pending] at failed

/-- Once everyone was told, this stays so. -/
theorem Drained.step {t : Traffic} (h : t.Drained) (e : Event) : (t.step e).Drained := by
  obtain ⟨r, hr, hstage⟩ := h
  cases reports_step t e with
  | same exits _ => exact ⟨r, exits ▸ hr, hstage⟩
  | begins reason document _ exits _ => exact ⟨r, exits ▸ List.mem_append_left _ hr, hstage⟩
  | advances exit r' _ reported exits _ _ =>
    obtain ⟨i, hi⟩ := List.getElem?_of_mem hr
    by_cases hexit : exit = i
    · -- The report that has told everyone can only be cleared next.
      subst hexit
      obtain rfl : r' = r := Option.some.inj (reported.symm.trans hi)
      refine ⟨{ r' with stage := nextStage r'.stage }, ?_, .inr ?_⟩
      · rw [exits]
        exact List.mem_set (List.getElem?_eq_some_iff.1 hi).1 _
      · rcases hstage with hstage | hstage <;> simp [hstage, nextStage]
    · refine ⟨r, ?_, hstage⟩
      rw [exits]
      exact List.mem_of_getElem? (by rw [List.getElem?_set_ne hexit]; exact hi)

theorem Drained.run {t : Traffic} (h : t.Drained) (events : List Event) :
    (t.run events).Drained := by
  induction events generalizing t with
  | nil => exact h
  | cons e rest ih => exact ih (h.step e)

/-! ## The invariant -/

/-- What holds of traffic at any time: tickets that wait belong to senders who registered for just
    that id, whoever has mail waits no longer, the exchange knows of an exit exactly if one was
    recorded, and nobody waits once everyone was told. -/
structure Sound (t : Traffic) : Prop where
  registered : ∀ id i, t.exchange.waiting.get? id = some i →
    ∃ invocation, t.Enrolled invocation i ∧ invocation.id = id
  mailed : ∀ i reply, (i, reply) ∈ t.exchange.mail →
    i < t.senders.length ∧ ∀ id, t.exchange.waiting.get? id ≠ some i
  exited : t.exits ≠ [] → t.exchange.exitReason ≠ none
  known : ∀ reason, t.exchange.exitReason = some reason → reason ∈ t.reasons
  drained : t.Drained → t.exchange.waiting = .empty

theorem Sound.fresh : fresh.Sound where
  registered id i h := by simp [Traffic.fresh, Exchange.fresh] at h
  mailed i reply h := by simp [Traffic.fresh, Exchange.fresh] at h
  exited h := absurd rfl h
  known reason h := by simp [Traffic.fresh, Exchange.fresh] at h
  drained h := by simp [Traffic.fresh, Drained] at h

variable {t : Traffic}

theorem Sound.registered_step (h : t.Sound) (e : Event) (id : String) (i : Ticket)
    (hi : (t.step e).exchange.waiting.get? id = some i) :
    ∃ invocation, (t.step e).Enrolled invocation i ∧ invocation.id = id := by
  have hold (hi : t.exchange.waiting.get? id = some i) :
      ∃ invocation, (t.step e).Enrolled invocation i ∧ invocation.id = id := by
    obtain ⟨invocation, henrolled, hid⟩ := h.registered id i hi
    exact ⟨invocation, henrolled.step e, hid⟩
  cases shift_step t e with
  | keeps waiting _ => exact hold (waiting ▸ hi)
  | registers q event running waiting _ =>
    rw [waiting, Dictionary.get?_insert] at hi
    split at hi
    · next hid =>
      cases hi
      refine ⟨q.invocation, ⟨⟨q, .enrolled⟩, ?_, rfl, by simp⟩, hid.symm⟩
      rw [event, step_brings_of_running q running]
      simp
    · exact hold hi
  | answers id' reply ticket _ _ waiting _ =>
    exact hold (Dictionary.get?_of_get?_erase (waiting ▸ hi)).2
  | givesUp id' _ waiting _ => exact hold (Dictionary.get?_of_get?_erase (waiting ▸ hi)).2
  | tells exit r _ _ waiting _ => simp [waiting] at hi

/-- A ticket waits under one id only. -/
theorem Sound.waits_once (h : t.Sound) {id other : String} {i : Ticket}
    (hid : t.exchange.waiting.get? id = some i) (hother : t.exchange.waiting.get? other = some i) :
    id = other := by
  obtain ⟨invocation, henrolled, rfl⟩ := h.registered id i hid
  obtain ⟨invocation', henrolled', rfl⟩ := h.registered other i hother
  rw [henrolled.unique henrolled']

theorem Sound.lt_of_waits (h : t.Sound) {id : String} {i : Ticket}
    (hid : t.exchange.waiting.get? id = some i) : i < t.senders.length := by
  obtain ⟨invocation, henrolled, _⟩ := h.registered id i hid
  exact henrolled.lt_length

theorem Sound.mailed_step (h : t.Sound) (e : Event) (i : Ticket) (reply : Reply)
    (hi : (i, reply) ∈ (t.step e).exchange.mail) :
    i < (t.step e).senders.length ∧ ∀ id, (t.step e).exchange.waiting.get? id ≠ some i := by
  have hlength := length_senders_step t e
  have hold (hi : (i, reply) ∈ t.exchange.mail) : i < (t.step e).senders.length ∧
      ∀ id, t.exchange.waiting.get? id ≠ some i := by
    obtain ⟨hlt, hnone⟩ := h.mailed i reply hi
    exact ⟨Nat.lt_of_lt_of_le hlt hlength, hnone⟩
  cases shift_step t e with
  | keeps waiting mail => rw [waiting]; exact hold (mail ▸ hi)
  | registers q _ _ waiting mail =>
    rw [mail] at hi
    refine ⟨(hold hi).1, ?_⟩
    intro id
    rw [waiting, Dictionary.get?_insert]
    split
    · intro heq
      exact absurd (h.mailed i reply hi).1 (by simp [← Option.some.inj heq])
    · exact (hold hi).2 id
  | answers id' reply' ticket _ waits waiting mail =>
    rw [mail] at hi
    rw [waiting]
    rcases List.mem_append.1 hi with hi | hi
    · exact ⟨(hold hi).1, fun id hid => (hold hi).2 id (Dictionary.get?_of_get?_erase hid).2⟩
    · obtain ⟨rfl, rfl⟩ : i = ticket ∧ reply = reply' := by simpa using hi
      refine ⟨Nat.lt_of_lt_of_le (h.lt_of_waits waits) hlength, ?_⟩
      intro id hid
      obtain ⟨hne, hid⟩ := Dictionary.get?_of_get?_erase hid
      exact hne (h.waits_once hid waits)
  | givesUp id' _ waiting mail =>
    rw [mail] at hi
    rw [waiting]
    exact ⟨(hold hi).1, fun id hid => (hold hi).2 id (Dictionary.get?_of_get?_erase hid).2⟩
  | tells exit r _ _ waiting mail =>
    refine ⟨?_, fun id => by simp [waiting]⟩
    rw [mail] at hi
    rcases List.mem_append.1 hi with hi | hi
    · exact (hold hi).1
    · obtain ⟨⟨id, i'⟩, hentry, heq⟩ := List.mem_map.1 hi
      obtain rfl : i' = i := (Prod.mk.inj heq).1
      exact Nat.lt_of_lt_of_le (h.lt_of_waits (Dictionary.mem_entries_iff.1 hentry)) hlength

theorem Sound.exited_step (h : t.Sound) (e : Event) (hexits : (t.step e).exits ≠ []) :
    (t.step e).exchange.exitReason ≠ none := by
  cases reports_step t e with
  | same exits exitReason => exact exitReason ▸ h.exited (exits ▸ hexits)
  | begins reason document _ _ exitReason => simp [exitReason]
  | advances exit r _ reported _ exitReason _ =>
    exact exitReason ▸ h.exited (List.ne_nil_of_mem (List.mem_of_getElem? reported))

theorem Sound.known_step (h : t.Sound) (e : Event) (reason : String)
    (hreason : (t.step e).exchange.exitReason = some reason) : reason ∈ (t.step e).reasons := by
  cases reports_step t e with
  | same _ exitReason => exact mem_reasons_step (h.known reason (exitReason ▸ hreason)) e
  | begins reason' document _ exits exitReason =>
    rw [exitReason] at hreason
    cases hreason
    simp [reasons, exits]
  | advances _ _ _ _ _ exitReason _ =>
    exact mem_reasons_step (h.known reason (exitReason ▸ hreason)) e

/-- Nobody comes to wait once an exit was recorded. -/
theorem Sound.waiting_empty_step (h : t.Sound) (e : Event) (hexits : t.exits ≠ [])
    (hempty : t.exchange.waiting = .empty) : (t.step e).exchange.waiting = .empty := by
  have herase (id : String) : (Dictionary.empty : Dictionary Ticket).erase id = .empty := rfl
  cases shift_step t e with
  | keeps waiting _ => rw [waiting, hempty]
  | registers q _ running _ _ => exact absurd running (h.exited hexits)
  | answers id reply ticket _ _ waiting _ => rw [waiting, hempty, herase]
  | givesUp id _ waiting _ => rw [waiting, hempty, herase]
  | tells exit r _ _ waiting _ => exact waiting

theorem Sound.drained_step (h : t.Sound) (e : Event) (hdrained : (t.step e).Drained) :
    (t.step e).exchange.waiting = .empty := by
  have hold (hdrained : t.Drained) : (t.step e).exchange.waiting = .empty := by
    obtain ⟨r, hr, hstage⟩ := hdrained
    exact h.waiting_empty_step e (List.ne_nil_of_mem hr) (h.drained ⟨r, hr, hstage⟩)
  obtain ⟨r, hr, hstage⟩ := hdrained
  cases reports_step t e with
  | same exits _ => exact hold ⟨r, exits ▸ hr, hstage⟩
  | begins reason document _ exits _ =>
    rw [exits] at hr
    rcases List.mem_append.1 hr with hr | hr
    · exact hold ⟨r, hr, hstage⟩
    · obtain rfl : r = ⟨reason, document, .recorded⟩ := by simpa using hr
      simp at hstage
  | advances exit r' _ reported exits _ tells =>
    rw [exits] at hr
    rcases List.mem_or_eq_of_mem_set hr with hr | rfl
    · exact hold ⟨r, hr, hstage⟩
    · have hmem := List.mem_of_getElem? reported
      cases hr' : r'.stage with
      | recorded => simp [hr', nextStage] at hstage
      | failed => exact tells hr'
      | drained => exact hold ⟨r', hmem, .inl hr'⟩
      | cleared => exact hold ⟨r', hmem, .inr hr'⟩

theorem Sound.step (h : t.Sound) (e : Event) : (t.step e).Sound where
  registered := h.registered_step e
  mailed := h.mailed_step e
  exited := h.exited_step e
  known := h.known_step e
  drained := h.drained_step e

theorem Sound.run (h : t.Sound) (events : List Event) : (t.run events).Sound := by
  induction events generalizing t with
  | nil => exact h
  | cons e rest ih => exact ih (h.step e)

end FunctionHost.Traffic
