-- SUMMARY: An account of the replies that were taken in, in which no id is served twice.
import FunctionHost.Proofs.Exchange.Exit

/-! # Replies that were taken in

A reply is taken in when somebody waits for it, and with that the waiting is over. As long as
nobody registers under an id that was served before, every id is served at most once, and what is
in the mail of a ticket was posted under the id it was registered with. -/

namespace FunctionHost

/-- The body of a reply that the function posted. -/
def Reply.body? : Reply → Option Bytes
  | .response body => some body
  | .error body => some body
  | .exited _ => none

namespace Traffic

open Exchange

/-- The id and the body of a reply that an event brings and that somebody waits for. -/
def delivered? (t : Traffic) : Event → Option (String × Bytes)
  | .replies id reply =>
    if t.exchange.waiting.get? id = none then none else reply.body?.map fun body => (id, body)
  | _ => none

/-- Somebody registered under an id. -/
def Registered (t : Traffic) (id : String) : Prop :=
  ∃ invocation ticket, t.Enrolled invocation ticket ∧ invocation.id = id

theorem Registered.step {t : Traffic} {id : String} (h : t.Registered id) (e : Event) :
    (t.step e).Registered id := by
  obtain ⟨invocation, ticket, henrolled, hid⟩ := h
  exact ⟨invocation, ticket, henrolled.step e, hid⟩

theorem Registered.of_step {t : Traffic} {e : Event} {id : String} (h : (t.step e).Registered id) :
    t.Registered id ∨ ∃ q, e = .brings q ∧ q.invocation.id = id := by
  obtain ⟨invocation, ticket, henrolled, hid⟩ := h
  rcases henrolled.of_step with hold | ⟨q, event, rfl⟩
  · exact .inl ⟨invocation, ticket, hold, hid⟩
  · exact .inr ⟨q, event, hid⟩

/-- The replies that were taken in so far, with the id each was posted under: mail from the
    function is among them, whoever was served waits no longer, and nobody was served twice. -/
structure Ledger (t : Traffic) (log : List (String × Bytes)) : Prop where
  posted : ∀ i reply body, (i, reply) ∈ t.exchange.mail → reply.body? = some body →
    ∃ invocation, t.Enrolled invocation i ∧ (invocation.id, body) ∈ log
  spent : ∀ id ∈ log.map Prod.fst, t.Registered id ∧ t.exchange.waiting.get? id = none
  nodup : (log.map Prod.fst).Nodup

theorem Ledger.fresh : fresh.Ledger [] where
  posted i reply body h := by simp [Traffic.fresh, Exchange.fresh] at h
  spent id h := by simp at h
  nodup := .nil

variable {t : Traffic} {log : List (String × Bytes)}

/-- A reply that is taken in is entered. -/
theorem Ledger.deliver (h : t.Ledger log) (sound : t.Sound) {id : String} {reply : Reply}
    {body : Bytes} {ticket : Ticket} (hbody : reply.body? = some body)
    (waits : t.exchange.waiting.get? id = some ticket) :
    (t.step (.replies id reply)).Ledger (log ++ [(id, body)]) := by
  obtain ⟨invocation, henrolled, hid⟩ := sound.registered id ticket waits
  have hmail : (t.step (.replies id reply)).exchange.mail
      = t.exchange.mail ++ [(ticket, reply)] := by rw [step_replies_of_waits reply waits]
  have hwaiting : (t.step (.replies id reply)).exchange.waiting
      = t.exchange.waiting.erase id := by rw [step_replies_of_waits reply waits]
  refine ⟨?_, ?_, ?_⟩
  · intro i reply' body' hi hbody'
    rw [hmail] at hi
    rcases List.mem_append.1 hi with hi | hi
    · obtain ⟨invocation', henrolled', hlog⟩ := h.posted i reply' body' hi hbody'
      exact ⟨invocation', henrolled'.step _, List.mem_append_left _ hlog⟩
    · obtain ⟨rfl, rfl⟩ : i = ticket ∧ reply' = reply := by simpa using hi
      obtain rfl : body' = body := Option.some.inj (hbody'.symm.trans hbody)
      exact ⟨invocation, henrolled.step _, by simp [hid]⟩
  · intro other hother
    rw [List.map_append] at hother
    rw [hwaiting, Dictionary.get?_erase]
    rcases List.mem_append.1 hother with hother | hother
    · obtain ⟨hregistered, hnone⟩ := h.spent other hother
      exact ⟨hregistered.step _, by simp [hnone]⟩
    · obtain rfl : other = id := by simpa using hother
      exact ⟨.step ⟨invocation, ticket, henrolled, hid⟩ _, by simp⟩
  · rw [List.map_append, List.nodup_append]
    refine ⟨h.nodup, by simp, ?_⟩
    intro other hother id' hid'
    obtain rfl : id' = id := by simpa using hid'
    rintro rfl
    simp [(h.spent _ hother).2] at waits

/-- What takes in no reply leaves the account as it is. -/
theorem Ledger.pass (h : t.Ledger log) {e : Event} (silent : t.delivered? e = none)
    (new : ∀ q, e = .brings q → q.invocation.id ∉ log.map Prod.fst) : (t.step e).Ledger log := by
  have hposted (i : Ticket) (reply : Reply) (body : Bytes) (hi : (i, reply) ∈ t.exchange.mail)
      (hbody : reply.body? = some body) :
      ∃ invocation, (t.step e).Enrolled invocation i ∧ (invocation.id, body) ∈ log := by
    obtain ⟨invocation, henrolled, hlog⟩ := h.posted i reply body hi hbody
    exact ⟨invocation, henrolled.step e, hlog⟩
  have hregistered (id : String) (hid : id ∈ log.map Prod.fst) : (t.step e).Registered id :=
    (h.spent id hid).1.step e
  refine ⟨?_, ?_, h.nodup⟩
  · intro i reply body hi hbody
    cases shift_step t e with
    | keeps _ mail | registers _ _ _ _ mail | givesUp _ _ _ mail =>
      exact hposted i reply body (mail ▸ hi) hbody
    | answers id reply' ticket event waits _ mail =>
      rw [mail] at hi
      rcases List.mem_append.1 hi with hi | hi
      · exact hposted i reply body hi hbody
      · obtain ⟨rfl, rfl⟩ : i = ticket ∧ reply = reply' := by simpa using hi
        simp [event, delivered?, waits, hbody] at silent
    | tells _ r _ _ _ mail =>
      rw [mail] at hi
      rcases List.mem_append.1 hi with hi | hi
      · exact hposted i reply body hi hbody
      · obtain ⟨_, _, heq⟩ := List.mem_map.1 hi
        cases heq
        cases hbody
  · intro id hid
    refine ⟨hregistered id hid, ?_⟩
    have hnone := (h.spent id hid).2
    cases shift_step t e with
    | keeps waiting _ => rw [waiting, hnone]
    | registers q event _ waiting _ =>
      have hne : id ≠ q.invocation.id := fun heq => new q event (heq ▸ hid)
      rw [waiting, Dictionary.get?_insert_other _ _ hne, hnone]
    | answers _ _ _ _ _ waiting _ => simp [waiting, Dictionary.get?_erase, hnone]
    | givesUp _ _ waiting _ => simp [waiting, Dictionary.get?_erase, hnone]
    | tells _ _ _ _ waiting _ => simp [waiting]

/-- Reading mail changes nothing about what was taken in. -/
theorem Ledger.collect (h : t.Ledger log) (i : Ticket) :
    ({ t with exchange := t.exchange.collect i } : Traffic).Ledger log where
  posted j reply body hj := h.posted j reply body (List.mem_filter.1 hj).1
  spent := h.spent
  nodup := h.nodup

/-! ## Neutral events -/

theorem Ledger.run_neutral (h : t.Ledger log) {events : List Event}
    (neutral : ∀ event ∈ events, event.IsNeutral) : (t.run events).Ledger log := by
  induction events generalizing t with
  | nil => exact h
  | cons e rest ih =>
    obtain ⟨hneutral, hrest⟩ := List.forall_mem_cons.1 neutral
    refine ih (h.pass ?_ ?_) hrest
    · cases e with
      | replies => exact hneutral.elim
      | _ => rfl
    · rintro q rfl
      exact hneutral.elim

theorem Registered.of_run_neutral {id : String} {events : List Event}
    (h : (t.run events).Registered id) (neutral : ∀ event ∈ events, event.IsNeutral) :
    t.Registered id := by
  induction events generalizing t with
  | nil => exact h
  | cons e rest ih =>
    obtain ⟨hneutral, hrest⟩ := List.forall_mem_cons.1 neutral
    rcases (ih h hrest).of_step with hold | ⟨q, rfl, _⟩
    · exact hold
    · exact hneutral.elim

end Traffic

end FunctionHost
