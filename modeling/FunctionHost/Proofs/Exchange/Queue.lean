-- SUMMARY: Which invocations are in the queue, and which of them somebody still waits for.
import FunctionHost.Exchange.Operation
import FunctionHost.Proofs.Dictionary

/-! # Invocations in the queue

An invocation in the queue was put there once, and neither was it abandoned since nor did the
function exit. It may have been replied to, though: a reply ends the waiting but leaves the
invocation in the queue, so that it is handed out to nobody's benefit. -/

namespace FunctionHost.Exchange

/-- The id of the invocation that an operation queues. -/
def queuedId? : Operation → Option String
  | .enqueue q _ => some q.invocation.id
  | _ => none

/-- After some operations, what is known of an invocation that was queued by one of them: since then
    the function did not exit and nobody abandoned the invocation, and its ticket waits unless a
    reply came. -/
def Outstanding (ops : List Operation) (x : Exchange) (q : Queued) : Prop :=
  ∃ before ticket since, ops = before ++ .enqueue q ticket :: since ∧
    (∀ reason document, .exit reason document ∉ since) ∧ .abandon q.invocation.id ∉ since ∧
    (x.waiting.get? q.invocation.id = some ticket ↔ ∀ reply, .reply q.invocation.id reply ∉ since)

variable {x : Exchange} {op : Operation} {ops : List Operation} {q : Queued} {id : String}
  {ticket : Ticket}

/-! ## What an operation does -/

theorem queue_poll (x : Exchange) (p : Poller) :
    (∀ q, (x.poll p).1 = some q → q ∈ x.queue) ∧ ∀ q ∈ (x.poll p).2.queue, q ∈ x.queue := by
  cases hqueue : x.queue with
  | nil => simp [poll, pop?, hqueue, sleep]
  | cons first rest => simp +contextual [poll, pop?, hqueue]

theorem waiting_poll (x : Exchange) (p : Poller) : (x.poll p).2.waiting = x.waiting := by
  cases hqueue : x.queue <;> simp [poll, pop?, hqueue, sleep]

/-- What is handed out was in the queue. -/
theorem mem_queue_of_handed (h : (x.perform op).2 = .handed q) : q ∈ x.queue := by
  cases op with
  | poll p =>
    simp only [perform, Result.ofPoll] at h
    split at h
    · next found => cases h; exact (queue_poll x p).1 q found
    · cases h
  | retry p =>
    simp only [perform, Result.ofPoll] at h
    split at h
    · next found => cases h; exact (queue_poll { x with bell := x.bell.look p } p).1 q found
    · cases h
  | enqueue q' ticket => simp only [perform] at h; split at h <;> cases h
  | reply id reply => simp only [perform] at h; split at h <;> cases h
  | abandon | markReady | failStart | exit => simp [perform] at h

/-- Invocations come to the queue by being queued, with a ticket that waits, and leave it at the
    latest when they are abandoned or the function exits. -/
theorem mem_queue_perform (h : q ∈ (x.perform op).1.queue) :
    (q ∈ x.queue ∧ (∀ reason document, op ≠ .exit reason document) ∧
      op ≠ .abandon q.invocation.id) ∨
    ∃ ticket, op = .enqueue q ticket ∧
      (x.perform op).1.waiting.get? q.invocation.id = some ticket := by
  cases op with
  | enqueue q' ticket =>
    cases hexit : x.exitReason with
    | some reason =>
      have hold : q ∈ x.queue := by simpa [perform, enqueue, enroll, hexit, Except.map] using h
      exact .inl ⟨hold, by simp, by simp⟩
    | none =>
      simp only [perform, enqueue, enroll, hexit, Except.map, push, ring, List.mem_append,
        List.mem_singleton] at h ⊢
      rcases h with h | rfl
      · exact .inl ⟨h, by simp, by simp⟩
      · exact .inr ⟨ticket, rfl, by simp⟩
  | poll p => exact .inl ⟨(queue_poll x p).2 q h, by simp, by simp⟩
  | retry p =>
    exact .inl ⟨(queue_poll { x with bell := x.bell.look p } p).2 q h, by simp, by simp⟩
  | reply id reply =>
    refine .inl ⟨?_, by simp, by simp⟩
    cases hwaits : x.waiting.get? id <;> simpa [perform, deliver?, hwaits] using h
  | abandon id =>
    obtain ⟨hmem, hne⟩ : q ∈ x.queue ∧ q.invocation.id ≠ id := by
      simpa [perform, abandon, forget, withdraw] using h
    refine .inl ⟨hmem, by simp, ?_⟩
    rintro ⟨⟩
    exact hne rfl
  | markReady =>
    refine .inl ⟨?_, by simp, by simp⟩
    simp only [perform, markReady] at h
    split at h <;> exact h
  | failStart document =>
    refine .inl ⟨?_, by simp, by simp⟩
    simp only [perform, failStart] at h
    split at h <;> exact h
  | exit reason document => simp [perform, exited, clear] at h

/-- A ticket that waits under an id goes on to do so unless a reply comes, as long as the invocation
    is not abandoned or queued again, and the function does not exit. -/
theorem waits_perform (running : ∀ reason document, op ≠ .exit reason document)
    (kept : op ≠ .abandon id) (other : queuedId? op ≠ some id) :
    (x.perform op).1.waiting.get? id = some ticket ↔
      x.waiting.get? id = some ticket ∧ ∀ reply, op ≠ .reply id reply := by
  have same (h : (x.perform op).1.waiting = x.waiting) (unreplied : ∀ reply, op ≠ .reply id reply) :
      (x.perform op).1.waiting.get? id = some ticket ↔
        x.waiting.get? id = some ticket ∧ ∀ reply, op ≠ .reply id reply := by
    rw [h]
    exact ⟨fun waits => ⟨waits, unreplied⟩, And.left⟩
  cases op with
  | enqueue q' ticket' =>
    have hne : id ≠ q'.invocation.id := fun heq => other (by rw [queuedId?, heq])
    cases hexit : x.exitReason with
    | some reason => exact same (by simp [perform, enqueue, enroll, hexit, Except.map]) (by simp)
    | none =>
      simp [perform, enqueue, enroll, hexit, Except.map, push, ring,
        Dictionary.get?_insert_other _ _ hne]
  | poll p => exact same (waiting_poll x p) (by simp)
  | retry p => exact same (waiting_poll _ p) (by simp)
  | reply id' reply =>
    by_cases hid : id' = id
    · subst hid
      cases hwaits : x.waiting.get? id' <;> simp [perform, deliver?, hwaits]
    · have unreplied : ∀ reply', Operation.reply id' reply ≠ .reply id reply' := by
        rintro reply' ⟨⟩
        exact hid rfl
      cases hwaits : x.waiting.get? id' with
      | none => exact same (by simp [perform, deliver?, hwaits]) unreplied
      | some ticket' =>
        simp [perform, deliver?, hwaits, Dictionary.get?_erase_other _ (Ne.symm hid), hid]
  | abandon id' =>
    have hne : id ≠ id' := by rintro rfl; exact kept rfl
    simp [perform, abandon, forget, withdraw, Dictionary.get?_erase_other _ hne]
  | markReady => exact same (by simp only [perform, markReady]; split <;> rfl) (by simp)
  | failStart document => exact same (by simp only [perform, failStart]; split <;> rfl) (by simp)
  | exit reason document => exact absurd rfl (running reason document)

/-! ## Whole runs -/

theorem Outstanding.mem_queuedIds (h : Outstanding ops x q) :
    q.invocation.id ∈ ops.filterMap queuedId? := by
  obtain ⟨before, ticket, since, rfl, _⟩ := h
  exact List.mem_filterMap.2 ⟨.enqueue q ticket, by simp, rfl⟩

/-- One more operation after which an invocation is still in the queue. -/
theorem Outstanding.perform (h : Outstanding ops x q)
    (running : ∀ reason document, op ≠ .exit reason document)
    (kept : op ≠ .abandon q.invocation.id) (other : queuedId? op ≠ some q.invocation.id) :
    Outstanding (ops ++ [op]) (x.perform op).1 q := by
  obtain ⟨before, ticket, since, rfl, hrunning, hkept, hwaits⟩ := h
  refine ⟨before, ticket, since ++ [op], by simp, ?_, ?_, ?_⟩
  · intro reason document
    simp [hrunning reason document, (running reason document).symm]
  · simp [hkept, kept.symm]
  · rw [waits_perform running kept other, hwaits]
    simp only [List.mem_append, List.mem_singleton, not_or, forall_and]
    exact and_congr_right fun _ => forall_congr' fun reply => ne_comm

/-- Everything in the queue was queued and neither abandoned nor failed since. -/
theorem outstanding_performAll (h : ∀ q ∈ x.queue, Outstanding ops x q) {more : List Operation}
    (distinct : ((ops ++ more).filterMap queuedId?).Nodup) :
    ∀ q ∈ (x.performAll more).1.queue, Outstanding (ops ++ more) (x.performAll more).1 q := by
  induction more generalizing ops x with
  | nil => simpa [performAll] using h
  | cons op rest ih =>
    have happend : ops ++ op :: rest = (ops ++ [op]) ++ rest := by simp
    have hrun : (x.performAll (op :: rest)).1 = ((x.perform op).1.performAll rest).1 := rfl
    rw [happend] at distinct ⊢
    rw [hrun]
    refine ih ?_ distinct
    intro q hq
    rcases mem_queue_perform hq with ⟨hold, running, kept⟩ | ⟨ticket, rfl, waits⟩
    · refine (h q hold).perform running kept ?_
      intro same
      -- The invocation was queued by one of the operations before, and ids differ.
      have hmem : op ∈ [op] ++ rest := by simp
      rw [List.append_assoc, List.filterMap_append, List.nodup_append] at distinct
      exact distinct.2.2 _ (h q hold).mem_queuedIds _ (List.mem_filterMap.2 ⟨op, hmem, same⟩) rfl
    · exact ⟨ops, ticket, [], rfl, by simp, by simp, ⟨fun _ => by simp, fun _ => waits⟩⟩

/-- If no id is queued twice, an invocation that is in the queue, or handed out, was queued and since
    then neither abandoned nor failed by an exit of the function, and somebody waits for it unless
    it was replied to. -/
theorem outstanding_of_queued_or_handed (ops : List Operation) (q : Queued)
    (distinct : (ops.filterMap queuedId?).Nodup)
    (h : q ∈ (fresh.performAll ops).1.queue ∨
      ∃ op, ((fresh.performAll ops).1.perform op).2 = .handed q) :
    Outstanding ops (fresh.performAll ops).1 q := by
  have queued : q ∈ (fresh.performAll ops).1.queue := by
    rcases h with queued | ⟨op, handed⟩
    · exact queued
    · exact mem_queue_of_handed handed
  have nothing : ∀ q ∈ fresh.queue, Outstanding [] fresh q := by simp [fresh]
  exact outstanding_performAll nothing distinct q queued

/-- An invocation with nothing but an id, in the queue. -/
def bareQueued (id : String) : Queued :=
  ⟨⟨id, "", "", "", []⟩, ⟨0⟩⟩

/-- Of two invocations that are queued, one is abandoned and the other one replied to. -/
def repliedEarly : List Operation :=
  [ .enqueue (bareQueued "a") 0, .enqueue (bareQueued "b") 1, .abandon "b",
    .reply "a" (.response [1]) ]

theorem outstanding_repliedEarly :
    (repliedEarly.filterMap queuedId?).Nodup ∧
    bareQueued "a" ∈ (fresh.performAll repliedEarly).1.queue ∧
    Outstanding repliedEarly (fresh.performAll repliedEarly).1 (bareQueued "a") :=
  have queued : bareQueued "a" ∈ (fresh.performAll repliedEarly).1.queue := by decide +kernel
  ⟨by decide, queued, outstanding_of_queued_or_handed _ _ (by decide) (.inl queued)⟩

/-- An invocation that nobody waits for any more is handed out after it was replied to. -/
theorem handed_after_reply :
    bareQueued "a" ∈ (fresh.performAll repliedEarly).1.queue ∧
    (fresh.performAll repliedEarly).1.waiting.get? "a" = none ∧
    ((fresh.performAll repliedEarly).1.perform (.poll 0)).2 = .handed (bareQueued "a") := by
  refine ⟨?_, ?_, ?_⟩ <;> decide +kernel

end FunctionHost.Exchange
