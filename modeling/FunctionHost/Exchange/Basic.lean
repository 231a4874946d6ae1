-- SUMMARY: The exchange between those who invoke a function and the function that fetches its invocations.
import FunctionHost.Dictionary
import FunctionHost.Exchange.Doorbell
import FunctionHost.Invocation
import FunctionHost.Time.Deadline

/-! # Exchanges

An exchange stands between those who invoke a function and the function itself. Invocations are
queued until the function fetches them, and whoever waits for a reply holds a ticket under which
it will be mailed. The exchange also knows how the start of the function went, and whether the
function has exited.

Each operation here is one step that nothing else can interrupt. Longer operations are sequences
of such steps: others may take theirs in between. The second half of this module composes the
sequences without interruption. -/

namespace FunctionHost

/-- What is reported for an invocation: the body of a response, the body of an error, or that the
    function exited before it replied. -/
inductive Reply where
  | response (body : Bytes)
  | error (body : Bytes)
  | exited (reason : String)
  deriving Repr, DecidableEq

/-- How far the start of the function has come. -/
inductive Phase where
  | pending
  | ready
  | failed
  deriving Repr, DecidableEq, Inhabited

/-- The name of a phase. -/
def Phase.name : Phase → String
  | .pending => "Pending"
  | .ready => "Ready"
  | .failed => "Failed"

/-- An invocation in the queue, with the point in time until which it must be served. -/
structure Queued where
  invocation : Invocation
  deadline : Time.Instant
  deriving Repr, DecidableEq

/-- The queue entry of an invocation that may take some milliseconds from now on. -/
def Queued.ofInvocation (invocation : Invocation) (now : Time.Instant) (timeout : UInt64) :
    Queued :=
  ⟨invocation, now.after timeout⟩

/-- What someone holds who waits for a reply. -/
abbrev Ticket := Nat

/-- The state of an exchange. -/
structure Exchange where
  /-- The invocations that were not fetched yet, in order. -/
  queue : List Queued
  /-- The tickets of those who wait for a reply, by the id of their invocation. -/
  waiting : Dictionary Ticket
  /-- Where those who fetch sleep while the queue is empty. -/
  bell : Doorbell
  /-- How far the start has come. -/
  phase : Phase
  /-- The document that explains why the start failed. -/
  startError : Option Bytes
  /-- Why the function exited. -/
  exitReason : Option String
  /-- The replies that were mailed and not collected yet. -/
  mail : List (Ticket × Reply)
  deriving DecidableEq

namespace Exchange

/-- An exchange before anything happened. -/
def fresh : Exchange where
  queue := []
  waiting := .empty
  bell := .silent
  phase := .pending
  startError := none
  exitReason := none
  mail := []

instance : Inhabited Exchange := ⟨fresh⟩

/-! ## Single steps -/

/-- Registers a ticket for the reply to an invocation, in the place of an earlier one for the same
    id. Nothing is registered once the function has exited, and the reason is given. -/
def enroll (x : Exchange) (id : String) (ticket : Ticket) : Except String Exchange :=
  match x.exitReason with
  | some reason => .error reason
  | none => .ok { x with waiting := x.waiting.insert id ticket }

/-- Puts an invocation at the end of the queue. -/
def push (x : Exchange) (q : Queued) : Exchange :=
  { x with queue := x.queue ++ [q] }

/-- Rings the bell for those who fetch. -/
def ring (x : Exchange) : Exchange :=
  { x with bell := x.bell.ring }

/-- Takes the first invocation off the queue. -/
def pop? (x : Exchange) : Option (Queued × Exchange) :=
  match x.queue with
  | q :: rest => some (q, { x with queue := rest })
  | [] => none

/-- Lets someone who found the queue empty sleep at the bell. -/
def sleep (x : Exchange) (p : Poller) : Exchange :=
  { x with bell := x.bell.sleep p }

/-- Mails the reply to an invocation, if someone waits for it. They then wait no longer. -/
def deliver? (x : Exchange) (id : String) (reply : Reply) : Option Exchange :=
  match x.waiting.get? id with
  | some ticket =>
    some { x with waiting := x.waiting.erase id, mail := x.mail ++ [(ticket, reply)] }
  | none => none

/-- Gives up on the reply to an invocation. -/
def forget (x : Exchange) (id : String) : Exchange :=
  { x with waiting := x.waiting.erase id }

/-- Takes an invocation out of the queue. -/
def withdraw (x : Exchange) (id : String) : Exchange :=
  { x with queue := x.queue.filter (·.invocation.id ≠ id) }

/-- Notes that the function asked for its first invocation. This only counts while the start is
    pending. -/
def markReady (x : Exchange) : Exchange :=
  if x.phase = .pending then { x with phase := .ready } else x

/-- Notes that the start failed, and why. This only counts while the start is pending. -/
def failStart (x : Exchange) (document : Bytes) : Exchange :=
  if x.phase = .pending then { x with phase := .failed, startError := some document } else x

/-- Notes that the function exited, and why. -/
def recordExit (x : Exchange) (reason : String) : Exchange :=
  { x with exitReason := some reason }

/-- Tells everyone who waits for a reply that the function exited. -/
def drain (x : Exchange) (reason : String) : Exchange :=
  let told := x.waiting.entries.map fun (_, ticket) => (ticket, Reply.exited reason)
  { x with waiting := .empty, mail := x.mail ++ told }

/-- Empties the queue. -/
def clear (x : Exchange) : Exchange :=
  { x with queue := [] }

/-! ## Mail -/

/-- What the holder of a ticket finds: a reply, that there is none yet, or that none will come. -/
inductive Inbox where
  | reply (reply : Reply)
  | unread
  | closed
  deriving Repr, DecidableEq

/-- What the holder of a ticket finds. -/
def inbox (x : Exchange) (ticket : Ticket) : Inbox :=
  match x.mail.find? fun (t, _) => t = ticket with
  | some (_, reply) => .reply reply
  | none => if x.waiting.entries.any fun (_, t) => t = ticket then .unread else .closed

/-- Removes the replies under a ticket, which its holder has read. -/
def collect (x : Exchange) (ticket : Ticket) : Exchange :=
  { x with mail := x.mail.filter fun (t, _) => t ≠ ticket }

/-! ## Uninterrupted sequences -/

/-- Queues an invocation and registers a ticket for the reply. -/
def enqueue (x : Exchange) (q : Queued) (ticket : Ticket) : Except String Exchange :=
  (x.enroll q.invocation.id ticket).map fun x => (x.push q).ring

/-- Gives up on an invocation altogether. -/
def abandon (x : Exchange) (id : String) : Exchange :=
  (x.forget id).withdraw id

/-- Everything that the exit of the function brings about: the reason is recorded, a pending start
    fails, everyone who waits is told, and the queue is emptied. -/
def exited (x : Exchange) (reason : String) (document : Bytes) : Exchange :=
  (((x.recordExit reason).failStart document).drain reason).clear

/-- Someone asks for an invocation, and sleeps at the bell if there is none. -/
def poll (x : Exchange) (p : Poller) : Option Queued × Exchange :=
  match x.pop? with
  | some (q, x) => (some q, x)
  | none => (none, x.sleep p)

/-- Someone who was woken looks again. -/
def retry (x : Exchange) (p : Poller) : Option Queued × Exchange :=
  ({ x with bell := x.bell.look p } : Exchange).poll p

/-- Lets everyone who was woken look again, in order, until nobody is left to do so; whoever finds
    an invocation is listed with it. A ring wakes at most one, so the number of rounds is bounded
    by `fuel`. -/
def settle (fuel : Nat) (x : Exchange) : List (Poller × Queued) × Exchange :=
  match fuel, x.bell.woken with
  | fuel + 1, p :: _ =>
    match x.retry p with
    | (some q, x) =>
      let (found, x) := settle fuel x
      ((p, q) :: found, x)
    | (none, x) => settle fuel x
  | _, _ => ([], x)

end Exchange

end FunctionHost
