-- SUMMARY: What each operation at an exchange comes to, and runs of operations taken apart.
import FunctionHost.Exchange.Operation

/-! # Operations and runs

What an operation comes to depends on one look at the exchange: whether the function has exited,
whether the queue is empty, whether somebody waits. For each way in which this can turn out, there
is one equation here, so that nothing later opens the operations themselves. A run that is cut in
two leads where its second part leads from the end of the first, and its results are those of the
two parts, in order. -/

namespace FunctionHost.Exchange

variable {x : Exchange} {id : String} {ticket : Ticket}

/-! ## Operations -/

theorem perform_enqueue_of_running (running : x.exitReason = none) (q : Queued) (ticket : Ticket) :
    x.perform (.enqueue q ticket) =
      ({ x with
        queue := x.queue ++ [q]
        waiting := x.waiting.insert q.invocation.id ticket
        bell := x.bell.ring }, .queued) := by
  simp [perform, enqueue, enroll, running, Except.map, push, ring]

theorem perform_enqueue_of_exited {reason : String} (exited : x.exitReason = some reason)
    (q : Queued) (ticket : Ticket) :
    x.perform (.enqueue q ticket) = (x, .refused reason) := by
  simp [perform, enqueue, enroll, exited, Except.map]

theorem poll_of_nil (empty : x.queue = []) (p : Poller) : x.poll p = (none, x.sleep p) := by
  simp [poll, pop?, empty]

theorem poll_of_cons {q : Queued} {rest : List Queued} (first : x.queue = q :: rest) (p : Poller) :
    x.poll p = (some q, { x with queue := rest }) := by
  simp [poll, pop?, first]

theorem perform_reply_of_waits (waits : x.waiting.get? id = some ticket) (reply : Reply) :
    x.perform (.reply id reply) =
      ({ x with waiting := x.waiting.erase id, mail := x.mail ++ [(ticket, reply)] }, .accepted) := by
  simp [perform, deliver?, waits]

/-- A reply that nobody waits for is refused and changes nothing. -/
theorem perform_reply_of_unawaited (unawaited : x.waiting.get? id = none) (reply : Reply) :
    x.perform (.reply id reply) = (x, .unknown) := by
  simp [perform, deliver?, unawaited]

/-! ## Runs -/

@[simp] theorem performAll_nil (x : Exchange) : x.performAll [] = (x, []) := rfl

@[simp] theorem performAll_cons (x : Exchange) (op : Operation) (rest : List Operation) :
    x.performAll (op :: rest) = (((x.perform op).1.performAll rest).1,
      (x.perform op).2 :: ((x.perform op).1.performAll rest).2) := rfl

@[simp] theorem length_results (x : Exchange) (ops : List Operation) :
    (x.performAll ops).2.length = ops.length := by
  induction ops generalizing x with
  | nil => rfl
  | cons op rest ih => simp [ih]

end FunctionHost.Exchange
