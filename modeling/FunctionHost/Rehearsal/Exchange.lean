-- SUMMARY: A script of steps played against an exchange, with named receivers and background tasks.
import FunctionHost.Exchange.Api
import FunctionHost.Exchange.Operation

/-! # Rehearsing an exchange

A script works an exchange from both sides. Receivers of replies and tasks that go on in the
background have names. A step that starts a task, or asks about one, first lets all tasks go on
until each of them has to wait; every other step is carried out before they get any time. A task
that has an answer at once gives it to the step that starts it, and otherwise the answer is kept
until it is asked for. A name that is used again belongs to the new task, and the old one goes on
without anybody to tell. -/

namespace FunctionHost.Rehearsal

/-- What a task in the background comes to. -/
inductive TaskAnswer where
  | invocation (q : Queued)
  | phase (phase : Phase)
  | response (response : Http.Response)
  deriving DecidableEq

/-- A task in the background: asking for an invocation, directly or over HTTP with some method;
    waiting for the end of the start; or done. -/
inductive BackgroundTask where
  | polling (poller : Poller) (method : Option Http.Method)
  | awaitingStart
  | done (answer : TaskAnswer)
  deriving DecidableEq

/-- A step of a script. -/
inductive ExchangeAct where
  | enqueue (receiver : String) (invocation : Invocation) (timeout : UInt64)
  | receive (receiver : String)
  | dropReceiver (receiver : String)
  | poll (task : String)
  | awaitStart (task : String)
  | request (task : String) (request : Http.Request)
  | check (task : String)
  | cancel (task : String)
  | reply (id : String) (reply : Reply)
  | abandon (id : String)
  | exit (reason : String) (document : Bytes)
  | markReady
  | failStart (document : Bytes)
  deriving DecidableEq

/-- What a step of a script learns. -/
inductive Finding where
  | nothing
  | flag (value : Bool)
  | queued
  | refused (reason : String)
  | inbox (inbox : Exchange.Inbox)
  | unknownReceiver
  | answer (answer : TaskAnswer)
  | waiting
  | unknownTask
  | cancelled
  | accepted
  | unknownRequest
  deriving DecidableEq

/-- An exchange under rehearsal. Tickets and pollers are numbered in the order of their use. -/
structure ExchangeRehearsal where
  exchange : Exchange
  now : Time.Instant
  used : Nat
  receivers : List (String × Ticket)
  tasks : List (String × BackgroundTask)
  log : List Log.Entry

namespace ExchangeRehearsal

/-- Before the first step. -/
def fresh (now : Time.Instant) : ExchangeRehearsal :=
  ⟨.fresh, now, 0, [], [], []⟩

/-- The task with a name. -/
def task? (r : ExchangeRehearsal) (name : String) : Option BackgroundTask :=
  r.tasks.lookup name

/-- A rehearsal without the task of a name. -/
def removeTask (r : ExchangeRehearsal) (name : String) : ExchangeRehearsal :=
  { r with tasks := r.tasks.filter (·.1 ≠ name) }

/-- A rehearsal with a task under a name, in the place of an earlier one. -/
def putTask (r : ExchangeRehearsal) (name : String) (task : BackgroundTask) : ExchangeRehearsal :=
  { r with tasks := (name, task) :: (r.removeTask name).tasks }

/-- The answer to whoever asked for an invocation. -/
def pollAnswer (method : Option Http.Method) (q : Queued) : TaskAnswer :=
  match method with
  | some method => .response (Exchange.Api.deliveryFor method q)
  | none => .invocation q

/-- A task after the pollers that found an invocation are known, and in a given phase. -/
def advance (found : List (Poller × Queued)) (phase : Phase) : BackgroundTask → BackgroundTask
  | .polling poller method =>
    match found.lookup poller with
    | some q => .done (pollAnswer method q)
    | none => .polling poller method
  | .awaitingStart => if phase = .pending then .awaitingStart else .done (.phase phase)
  | .done answer => .done answer

/-- Lets all tasks go on until each of them has to wait. -/
def settle (r : ExchangeRehearsal) : ExchangeRehearsal :=
  let (found, exchange) := r.exchange.settle (r.exchange.bell.woken.length + 2)
  let tasks := r.tasks.map fun (name, task) => (name, advance found exchange.phase task)
  { r with exchange, tasks }

/-- Carries out an operation at the exchange. -/
def perform (r : ExchangeRehearsal) (op : Exchange.Operation) :
    ExchangeRehearsal × Exchange.Result :=
  ({ r with exchange := (r.exchange.perform op).1 }, (r.exchange.perform op).2)

/-- Starts to ask for an invocation under a name. -/
def startPoll (r : ExchangeRehearsal) (name : String) : ExchangeRehearsal × Finding :=
  let poller := r.used
  let (r, result) := { r with used := poller + 1 }.perform (.poll poller)
  match result with
  | .handed q => (r, .answer (.invocation q))
  | _ => (r.putTask name (.polling poller none), .waiting)

/-- Sends a request under a name. -/
def startRequest (r : ExchangeRehearsal) (name : String) (request : Http.Request) :
    ExchangeRehearsal × Finding :=
  let poller := r.used
  let (exchange, logged, answer) := Exchange.Api.serve r.exchange poller request
  let r := { r with exchange, used := poller + 1, log := r.log ++ logged }
  match answer with
  | some response => (r, .answer (.response response))
  | none => (r.putTask name (.polling poller (some request.method)), .waiting)

/-- Looks at the task of a name, whose answer is forgotten once it is known. -/
def check (r : ExchangeRehearsal) (name : String) : ExchangeRehearsal × Finding :=
  match r.task? name with
  | some (.done answer) => (r.removeTask name, .answer answer)
  | some _ => (r, .waiting)
  | none => (r, .unknownTask)

/-- Drops the task of a name, after which the others go on. Nothing happens if there is none. -/
def cancel (r : ExchangeRehearsal) (name : String) : ExchangeRehearsal × Finding :=
  match r.task? name with
  | some (.polling poller _) =>
    let exchange := { r.exchange with bell := r.exchange.bell.leave poller }
    ((({ r with exchange } : ExchangeRehearsal).removeTask name).settle, .cancelled)
  | some _ => ((r.removeTask name).settle, .cancelled)
  | none => (r, .unknownTask)

/-- Looks for a reply under the name of a receiver. It is taken out. -/
def receive (r : ExchangeRehearsal) (name : String) : ExchangeRehearsal × Finding :=
  match r.receivers.lookup name with
  | some ticket =>
    ({ r with exchange := r.exchange.collect ticket }, .inbox (r.exchange.inbox ticket))
  | none => (r, .unknownReceiver)

/-- Queues an invocation whose reply goes to a named receiver. -/
def enqueue (r : ExchangeRehearsal) (receiver : String) (invocation : Invocation)
    (timeout : UInt64) : ExchangeRehearsal × Finding :=
  let ticket := r.used
  let (r, result) := r.perform (.enqueue (.ofInvocation invocation r.now timeout) ticket)
  match result with
  | .refused reason => (r, .refused reason)
  | _ =>
    ({ r with used := ticket + 1, receivers := (receiver, ticket) :: r.receivers }, .queued)

/-- What a step learns from the result of an operation that concerns nobody in particular. -/
def ofResult : Exchange.Result → Finding
  | .accepted => .accepted
  | .unknown => .unknownRequest
  | .settled now => .flag now
  | _ => .nothing

/-- Carries out an operation that concerns nobody in particular. -/
def operate (r : ExchangeRehearsal) (op : Exchange.Operation) : ExchangeRehearsal × Finding :=
  ((r.perform op).1, ofResult (r.perform op).2)

/-- What one step does by itself. -/
def act (r : ExchangeRehearsal) : ExchangeAct → ExchangeRehearsal × Finding
  | .enqueue receiver invocation timeout => r.enqueue receiver invocation timeout
  | .receive receiver => r.receive receiver
  | .dropReceiver receiver =>
    ({ r with receivers := r.receivers.filter (·.1 ≠ receiver) },
      .flag (r.receivers.lookup receiver).isSome)
  | .poll task => r.startPoll task
  | .awaitStart task =>
    if r.exchange.phase = .pending then (r.putTask task .awaitingStart, .waiting)
    else (r, .answer (.phase r.exchange.phase))
  | .request task request => r.startRequest task request
  | .check task => r.check task
  | .cancel task => r.cancel task
  | .reply id reply => r.operate (.reply id reply)
  | .abandon id => r.operate (.abandon id)
  | .exit reason document => r.operate (.exit reason document)
  | .markReady => r.operate .markReady
  | .failStart document => r.operate (.failStart document)

/-- The name under which a step starts a task. -/
def taskName? : ExchangeAct → Option String
  | .poll task => some task
  | .awaitStart task => some task
  | .request task _ => some task
  | _ => none

/-- Whether a step gives the tasks in the background time to go on. -/
def yields (a : ExchangeAct) : Bool :=
  (taskName? a).isSome || a matches .check _

/-- One step, after the tasks in the background went on if it gives them time. The name of a task
    that it starts no longer belongs to an earlier one. -/
def step (r : ExchangeRehearsal) (a : ExchangeAct) : ExchangeRehearsal × Finding :=
  let r := if yields a then r.settle else r
  match taskName? a with
  | some name => (r.removeTask name).act a
  | none => r.act a

end ExchangeRehearsal

end FunctionHost.Rehearsal
