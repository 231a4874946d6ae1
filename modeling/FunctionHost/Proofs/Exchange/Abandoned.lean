-- SUMMARY: An invocation that was abandoned before it was fetched leaves no trace for the others.
import FunctionHost.Proofs.Exchange.Queue
import FunctionHost.Proofs.Exchange.Run

/-! # Abandoned invocations

Two runs are compared, one with an invocation that is queued and abandoned later, and one without
it. An invocation can be abandoned sooner as well: that commutes with whatever is done about
others. So it may be abandoned right after it was queued, and that takes back everything but the
ring at the bell, which decides about nothing that an operation results in. -/

namespace FunctionHost.Exchange

/-- Two exchanges differ in nothing but their bells. -/
def Alike (x y : Exchange) : Prop :=
  ∃ bell, y = { x with bell := bell }

/-- An operation is not about the invocation with a given id, and not the exit of the function. -/
def Operation.Spares (id : String) : Operation → Prop
  | .enqueue q _ => q.invocation.id ≠ id
  | .reply other _ => other ≠ id
  | .abandon other => other ≠ id
  | .exit _ _ => False
  | .poll _ | .retry _ | .markReady | .failStart _ => True

variable {x y : Exchange} {op : Operation} {ops : List Operation} {id : String} {q : Queued}
  {ticket : Ticket}

/-! ## Exchanges that differ in their bells -/

theorem Alike.queue (h : x.Alike y) : y.queue = x.queue := by
  obtain ⟨_, rfl⟩ := h
  rfl

theorem Alike.waiting (h : x.Alike y) : y.waiting = x.waiting := by
  obtain ⟨_, rfl⟩ := h
  rfl

theorem Alike.mail (h : x.Alike y) : y.mail = x.mail := by
  obtain ⟨_, rfl⟩ := h
  rfl

theorem Alike.exitReason (h : x.Alike y) : y.exitReason = x.exitReason := by
  obtain ⟨_, rfl⟩ := h
  rfl

theorem Alike.phase (h : x.Alike y) : y.phase = x.phase := by
  obtain ⟨_, rfl⟩ := h
  rfl

theorem Alike.poll (h : x.Alike y) (p : Poller) :
    (x.poll p).2.Alike (y.poll p).2 ∧ (x.poll p).1 = (y.poll p).1 := by
  cases hqueue : x.queue with
  | nil =>
    rw [poll_of_nil hqueue, poll_of_nil (h.queue.trans hqueue)]
    obtain ⟨_, rfl⟩ := h
    exact ⟨⟨_, rfl⟩, rfl⟩
  | cons q rest =>
    rw [poll_of_cons hqueue, poll_of_cons (h.queue.trans hqueue)]
    obtain ⟨_, rfl⟩ := h
    exact ⟨⟨_, rfl⟩, rfl⟩

theorem Alike.failStart (h : x.Alike y) (document : Bytes) :
    (x.failStart document).Alike (y.failStart document) := by
  obtain ⟨bell, rfl⟩ := h
  refine ⟨bell, ?_⟩
  simp only [Exchange.failStart]
  split <;> rfl

/-- No operation lets the bell decide what it results in. -/
theorem Alike.perform (h : x.Alike y) (op : Operation) :
    (x.perform op).1.Alike (y.perform op).1 ∧ (x.perform op).2 = (y.perform op).2 := by
  cases op with
  | poll p =>
    obtain ⟨alike, same⟩ := h.poll p
    exact ⟨alike, congrArg Result.ofPoll same⟩
  | retry p =>
    have looking : ({ x with bell := x.bell.look p } : Exchange).Alike
        { y with bell := y.bell.look p } := by
      obtain ⟨_, rfl⟩ := h
      exact ⟨_, rfl⟩
    obtain ⟨alike, same⟩ := looking.poll p
    exact ⟨alike, congrArg Result.ofPoll same⟩
  | enqueue q ticket =>
    cases hexit : x.exitReason with
    | some reason =>
      rw [perform_enqueue_of_exited hexit, perform_enqueue_of_exited (h.exitReason.trans hexit)]
      exact ⟨h, rfl⟩
    | none =>
      rw [perform_enqueue_of_running hexit, perform_enqueue_of_running (h.exitReason.trans hexit)]
      obtain ⟨_, rfl⟩ := h
      exact ⟨⟨_, rfl⟩, rfl⟩
  | reply id reply =>
    have hget : y.waiting.get? id = x.waiting.get? id := congrArg (·.get? id) h.waiting
    cases hwaits : x.waiting.get? id with
    | none =>
      rw [perform_reply_of_unawaited hwaits, perform_reply_of_unawaited (hget.trans hwaits)]
      exact ⟨h, rfl⟩
    | some ticket =>
      rw [perform_reply_of_waits hwaits, perform_reply_of_waits (hget.trans hwaits)]
      obtain ⟨_, rfl⟩ := h
      exact ⟨⟨_, rfl⟩, rfl⟩
  | abandon id =>
    obtain ⟨_, rfl⟩ := h
    exact ⟨⟨_, rfl⟩, rfl⟩
  | markReady =>
    obtain ⟨bell, rfl⟩ := h
    refine ⟨⟨bell, ?_⟩, rfl⟩
    simp only [Exchange.perform, markReady]
    split <;> rfl
  | failStart document =>
    exact ⟨h.failStart document, by simp [Exchange.perform, h.phase]⟩
  | exit reason document =>
    have recorded : (x.recordExit reason).Alike (y.recordExit reason) := by
      obtain ⟨_, rfl⟩ := h
      exact ⟨_, rfl⟩
    obtain ⟨bell, failed⟩ := recorded.failStart document
    refine ⟨⟨bell, ?_⟩, rfl⟩
    simp only [Exchange.perform, exited]
    rw [failed]
    rfl

/-- Exchanges that differ in their bells cannot be told apart by what operations result in. -/
theorem Alike.performAll (h : x.Alike y) (ops : List Operation) :
    (x.performAll ops).1.Alike (y.performAll ops).1 ∧
      (x.performAll ops).2 = (y.performAll ops).2 := by
  induction ops generalizing x y with
  | nil => exact ⟨h, rfl⟩
  | cons op rest ih =>
    obtain ⟨halike, hresult⟩ := h.perform op
    obtain ⟨hrest, hresults⟩ := ih halike
    exact ⟨hrest, by simp [hresult, hresults]⟩

/-! ## Abandoning sooner -/

theorem abandon_eq (x : Exchange) (id : String) :
    x.abandon id =
      { x with
        waiting := x.waiting.erase id
        queue := x.queue.filter (·.invocation.id ≠ id) } := rfl

theorem poll_abandon (x : Exchange) (p : Poller)
    (unfetched : ∀ q, (x.poll p).1 = some q → q.invocation.id ≠ id) :
    (x.abandon id).poll p = ((x.poll p).1, (x.poll p).2.abandon id) := by
  cases hqueue : x.queue with
  | nil =>
    have hnothing : (x.abandon id).queue = [] := by simp [abandon_eq, hqueue]
    rw [poll_of_nil hqueue, poll_of_nil hnothing]
    rfl
  | cons first rest =>
    rw [poll_of_cons hqueue] at unfetched ⊢
    have hfirst : (x.abandon id).queue = first :: rest.filter (·.invocation.id ≠ id) := by
      simp [abandon_eq, hqueue, unfetched first rfl]
    rw [poll_of_cons hfirst]
    rfl

/-- Whether an invocation is abandoned before or after an operation that is not about it and does
    not hand it out comes to the same. -/
theorem perform_abandon (spares : op.Spares id)
    (unfetched : ∀ q, (x.perform op).2 = .handed q → q.invocation.id ≠ id) :
    (x.abandon id).perform op = ((x.perform op).1.abandon id, (x.perform op).2) := by
  cases op with
  | enqueue q ticket =>
    have hne : q.invocation.id ≠ id := spares
    cases hexit : x.exitReason with
    | some reason =>
      rw [perform_enqueue_of_exited hexit, perform_enqueue_of_exited (x := x.abandon id) hexit]
    | none =>
      rw [perform_enqueue_of_running hexit, perform_enqueue_of_running (x := x.abandon id) hexit]
      simp [abandon_eq, hne, Dictionary.erase_insert_other _ _ hne.symm]
  | poll p =>
    have hpoll := poll_abandon x p fun q found => unfetched q (congrArg Result.ofPoll found)
    exact congrArg (fun found => (found.2, Result.ofPoll found.1)) hpoll
  | retry p =>
    have hpoll := poll_abandon { x with bell := x.bell.look p } p fun q found =>
      unfetched q (congrArg Result.ofPoll found)
    exact congrArg (fun found => (found.2, Result.ofPoll found.1)) hpoll
  | reply other reply =>
    have hget : (x.abandon id).waiting.get? other = x.waiting.get? other :=
      Dictionary.get?_erase_other _ spares
    cases hwaits : x.waiting.get? other with
    | none =>
      rw [perform_reply_of_unawaited hwaits, perform_reply_of_unawaited (hget.trans hwaits)]
    | some ticket =>
      rw [perform_reply_of_waits hwaits, perform_reply_of_waits (hget.trans hwaits)]
      simp [abandon_eq, Dictionary.erase_comm _ id other]
  | abandon other =>
    simp [perform, abandon_eq, Dictionary.erase_comm _ id other, List.filter_filter, Bool.and_comm]
  | markReady =>
    by_cases pending : x.phase = .pending <;> simp [perform, markReady, abandon_eq, pending]
  | failStart document =>
    by_cases pending : x.phase = .pending <;> simp [perform, failStart, abandon_eq, pending]
  | exit reason document => exact spares.elim

theorem performAll_abandon (spare : ∀ op ∈ ops, op.Spares id)
    (unfetched : ∀ q, .handed q ∈ (x.performAll ops).2 → q.invocation.id ≠ id) :
    (x.abandon id).performAll ops = ((x.performAll ops).1.abandon id, (x.performAll ops).2) := by
  induction ops generalizing x with
  | nil => rfl
  | cons op rest ih =>
    obtain ⟨hop, hrest⟩ := List.forall_mem_cons.1 spare
    have hfirst : ∀ q, (x.perform op).2 = .handed q → q.invocation.id ≠ id :=
      fun q handed => unfetched q (by simp [handed])
    have hlater : ∀ q, .handed q ∈ ((x.perform op).1.performAll rest).2 → q.invocation.id ≠ id :=
      fun q handed => unfetched q (List.mem_cons_of_mem _ handed)
    rw [performAll_cons, perform_abandon hop hfirst, ih hrest hlater, performAll_cons]

/-! ## Abandoning at once -/

/-- To abandon an invocation right after it was queued takes it back. -/
theorem abandon_enqueue (unqueued : ∀ other ∈ x.queue, other.invocation.id ≠ q.invocation.id)
    (unawaited : x.waiting.get? q.invocation.id = none)
    (queued : (x.perform (.enqueue q ticket)).2 = .queued) :
    x.Alike ((x.perform (.enqueue q ticket)).1.abandon q.invocation.id) := by
  cases hexit : x.exitReason with
  | some reason =>
    rw [perform_enqueue_of_exited hexit] at queued
    cases queued
  | none =>
    have hqueue : x.queue.filter (·.invocation.id ≠ q.invocation.id) = x.queue :=
      List.filter_eq_self.2 fun other hmem => by simpa using unqueued other hmem
    rw [perform_enqueue_of_running hexit]
    refine ⟨x.bell.ring, ?_⟩
    simpa [abandon_eq, Dictionary.erase_insert_same _ unawaited] using hqueue

/-! ## Replies that come too late -/

/-- Nobody waits under an id until an invocation with this id is queued. -/
theorem unawaited_perform (unawaited : x.waiting.get? id = none)
    (unqueued : queuedId? op ≠ some id) : (x.perform op).1.waiting.get? id = none := by
  cases op with
  | enqueue q ticket =>
    have hne : id ≠ q.invocation.id := fun heq => unqueued (by rw [queuedId?, heq])
    cases hexit : x.exitReason with
    | some reason => rwa [perform_enqueue_of_exited hexit]
    | none =>
      rw [perform_enqueue_of_running hexit]
      exact (Dictionary.get?_insert_other _ _ hne).trans unawaited
  | poll p => exact (waiting_poll x p).symm ▸ unawaited
  | retry p => exact (waiting_poll { x with bell := x.bell.look p } p).symm ▸ unawaited
  | reply other reply =>
    cases hwaits : x.waiting.get? other with
    | none => rwa [perform_reply_of_unawaited hwaits]
    | some ticket =>
      rw [perform_reply_of_waits hwaits]
      simp [Dictionary.get?_erase, unawaited]
  | abandon other => simp [perform, abandon_eq, Dictionary.get?_erase, unawaited]
  | markReady | failStart =>
    simp only [perform, markReady, failStart]
    split <;> exact unawaited
  | exit reason document => rfl

theorem unawaited_performAll (unawaited : x.waiting.get? id = none)
    (unqueued : ∀ op ∈ ops, queuedId? op ≠ some id) :
    (x.performAll ops).1.waiting.get? id = none := by
  induction ops generalizing x with
  | nil => exact unawaited
  | cons op rest ih =>
    obtain ⟨hop, hrest⟩ := List.forall_mem_cons.1 unqueued
    exact ih (unawaited_perform unawaited hop) hrest

/-! ## The two runs -/

/-- An invocation is queued under an id that neither the queue nor anybody who waits knows, and
    abandoned later, while nothing else was done about it and nobody fetched it. Then the exchange
    is left as it would be without the invocation, up to the bell: the same invocations are queued
    in the same order, the same tickets wait and the same replies are in the mail. All operations
    on others had the same results, whatever is done from then on has the same results, and as long
    as the id is not used again, every reply to it is refused and changes nothing. -/
theorem abandoned_leaves_no_trace (x : Exchange) (q : Queued) (ticket : Ticket)
    (ops : List Operation)
    (unqueued : ∀ other ∈ x.queue, other.invocation.id ≠ q.invocation.id)
    (unawaited : x.waiting.get? q.invocation.id = none)
    (queued : (x.perform (.enqueue q ticket)).2 = .queued)
    (spare : ∀ op ∈ ops, op.Spares q.invocation.id)
    (unfetched : ∀ other, .handed other ∈ ((x.perform (.enqueue q ticket)).1.performAll ops).2 →
      other.invocation.id ≠ q.invocation.id) :
    let between := (x.perform (.enqueue q ticket)).1.performAll ops
    let after := (between.1.perform (.abandon q.invocation.id)).1
    let without := x.performAll ops
    after.queue = without.1.queue ∧ after.waiting = without.1.waiting ∧
    after.mail = without.1.mail ∧ between.2 = without.2 ∧
    (∀ later, (after.performAll later).2 = (without.1.performAll later).2) ∧
    ∀ later, (∀ op ∈ later, queuedId? op ≠ some q.invocation.id) → ∀ reply,
      (after.performAll later).1.perform (.reply q.invocation.id reply)
        = ((after.performAll later).1, .unknown) := by
  have sooner := performAll_abandon spare unfetched
  obtain ⟨alike, hresults⟩ := (abandon_enqueue unqueued unawaited queued).performAll ops
  rw [sooner] at alike hresults
  have same (later : List Operation) := (alike.performAll later).2
  refine ⟨alike.queue, alike.waiting, alike.mail, hresults.symm, fun later => (same later).symm, ?_⟩
  intro later unused reply
  refine perform_reply_of_unawaited (unawaited_performAll ?_ unused) reply
  exact Dictionary.get?_erase_same _ _

/-- An exchange with one invocation in the queue. -/
def occupied : Exchange :=
  (fresh.perform (.enqueue (bareQueued "a") 0)).1

/-- The first invocation is fetched and replied to, another one is queued, and one is abandoned that
    was never queued. -/
def bystanders : List Operation :=
  [ .poll 0, .enqueue (bareQueued "c") 2, .reply "a" (.response [1]), .abandon "d", .markReady ]

theorem abandoned_leaves_no_trace_bystanders :
    ((occupied.perform (.enqueue (bareQueued "b") 1)).1.performAll bystanders).2
      = [.handed (bareQueued "a"), .queued, .accepted, .done, .settled true] ∧
    let after := (((occupied.perform (.enqueue (bareQueued "b") 1)).1.performAll bystanders).1.perform
      (.abandon "b")).1
    after.queue = [bareQueued "c"] ∧ after.waiting = (occupied.performAll bystanders).1.waiting ∧
    (occupied.performAll bystanders).2
      = [.handed (bareQueued "a"), .queued, .accepted, .done, .settled true] ∧
    after.perform (.reply "b" (.response [2])) = (after, .unknown) := by
  have results : ((occupied.perform (.enqueue (bareQueued "b") 1)).1.performAll bystanders).2
      = [.handed (bareQueued "a"), .queued, .accepted, .done, .settled true] := by decide +kernel
  have unfetched : ∀ other, .handed other ∈
      ((occupied.perform (.enqueue (bareQueued "b") 1)).1.performAll bystanders).2 →
      other.invocation.id ≠ "b" := by
    rw [results]
    intro other handed
    obtain rfl : other = bareQueued "a" := by simpa using handed
    decide
  have spare : ∀ op ∈ bystanders, op.Spares "b" := by
    simp [bystanders, Operation.Spares, bareQueued]
  obtain ⟨queue, waiting, _, same, _, refused⟩ :=
    abandoned_leaves_no_trace occupied (bareQueued "b") 1 bystanders (by decide +kernel)
      (by decide +kernel) (by decide +kernel) spare unfetched
  have left : (occupied.performAll bystanders).1.queue = [bareQueued "c"] := by decide +kernel
  exact ⟨results, queue.trans left, waiting, same.symm.trans results,
    refused [] (by simp) (.response [2])⟩

end FunctionHost.Exchange
