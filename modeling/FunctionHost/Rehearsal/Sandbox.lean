-- SUMMARY: A sandbox and an endpoint before it, played on an isolated host with a clock that jumps.
import FunctionHost.Endpoint.Basic
import FunctionHost.Net.Isolated
import FunctionHost.Rehearsal.Launch
import FunctionHost.Sandbox.Basic

/-! # Rehearsing a sandbox

A script starts a sandbox, invokes it, sends requests to its interface, and posts to an endpoint
that stands before it. What takes long goes on in the background as a job. When the script waits
for a job, the clock jumps from one alarm to the next until the job is done, and everybody takes
the steps that they can after each jump. A process of the host ends as soon as anybody waits. -/

namespace FunctionHost.Rehearsal

/-- What happens when the clock reaches some time: a start or a call has taken too long, or a
    request that was held back goes on. -/
inductive Alarm where
  | start (number : Nat)
  | call (number : Nat)
  | request (task : Nat)
  deriving Repr, DecidableEq

/-- What a step of a script is waited for. -/
inductive Job where
  | start (number : Nat)
  | call (number : Nat)
  | request (task : Nat)
  | answered (response : Http.Response)
  | unreachable
  | refused (problem : Http.RequestProblem)
  deriving DecidableEq

/-- What a job comes to. -/
inductive JobResult where
  | start (failure : Option String)
  | call (outcome : Outcome) (draft : Draft)
  | answered (response : Http.Response)
  | unreachable
  | refused (problem : Http.RequestProblem)
  | unfinished
  deriving DecidableEq

/-- A step of a script. -/
inductive SandboxAct where
  | start
  | invoke (invocation : Invocation)
  | interface (request : Except Http.RequestProblem Http.Request)
  | endpoint (request : Except Http.RequestProblem Http.Request)

/-- A sandbox and an endpoint under rehearsal. The clock shows milliseconds, and `pairs` tells
    which tasks of the endpoint made which calls to the sandbox. -/
structure SandboxRehearsal where
  endpoint : Endpoint
  sandbox : Sandbox
  interface : Net.SocketAddress
  ids : Nat → String
  clock : Nat
  alarms : List (Nat × Alarm)
  processes : List Bootstrap.Launched
  gateStart : Option Nat
  pairs : List (Nat × Nat)

namespace SandboxRehearsal

/-- Before the first step. -/
def fresh (plan : Plan) (interface : Net.SocketAddress) (ids : Nat → String) :
    SandboxRehearsal where
  endpoint := .fresh plan .unlimited
  sandbox := .fresh
  interface
  ids
  clock := 0
  alarms := []
  processes := []
  gateStart := none
  pairs := []

/-- An alarm some milliseconds from now. -/
def ringIn (r : SandboxRehearsal) (delay : Nat) (alarm : Alarm) : SandboxRehearsal :=
  { r with alarms := r.alarms ++ [(r.clock + delay, alarm)] }

/-- Something happens in the sandbox. -/
def inSandbox (r : SandboxRehearsal) (events : List Sandbox.Event) : SandboxRehearsal :=
  { r with sandbox := r.sandbox.run events }

/-- Something happens at the endpoint. -/
def atEndpoint (r : SandboxRehearsal) (events : List Endpoint.Event) : SandboxRehearsal :=
  { r with endpoint := r.endpoint.run events }

/-! ## Starts and calls -/

/-- The process that a start launches, if it does, or why it cannot. -/
def launch (r : SandboxRehearsal) (call : StartCall) :
    Except Bootstrap.LaunchProblem (Option Bootstrap.Launched) :=
  let bootstrap := call.descriptor.bootstrap
  if bootstrap.isExternal then .ok none
  else (bootstrap.launch (call.descriptor.functionEnvironment r.interface).values).map some

/-- A start begins. -/
def beginStart (r : SandboxRehearsal) : SandboxRehearsal :=
  let call := r.endpoint.plan.call
  let number := r.sandbox.starts.length
  match r.launch call with
  | .error problem => r.inSandbox [.begins call.timeoutMillis (some problem)]
  | .ok process =>
    let r := r.inSandbox [.begins call.timeoutMillis none]
    { r with processes := r.processes ++ process.toList }.ringIn Sandbox.startLimit (.start number)

/-- A call begins. -/
def beginCall (r : SandboxRehearsal) (invocation : Invocation) : SandboxRehearsal :=
  let number := r.sandbox.calls.length
  let r := r.inSandbox
    [ .arrives invocation, .checks number, .brings number (.ofMillis r.clock), .queues number,
      .rings number ]
  r.ringIn r.sandbox.timeout.toNat (.call number)

/-! ## Letting everybody go on -/

/-- Every process ends, and its end is reported. -/
def endProcesses (r : SandboxRehearsal) : SandboxRehearsal :=
  r.processes.foldl
    (fun r process =>
      let exit := r.sandbox.traffic.exits.length
      r.inSandbox
        [ .exits process.name process.exit.describe, .reports exit, .reports exit,
          .reports exit ])
    { r with processes := [] }

/-- Every start and every call takes note of what has happened. -/
def noticeAll (r : SandboxRehearsal) : SandboxRehearsal :=
  (r.inSandbox ((List.range r.sandbox.starts.length).map .settles)).inSandbox
    ((List.range r.sandbox.calls.length).map .hears)

/-- The start that the gate waits for opens it once it has returned. -/
def openGate (r : SandboxRehearsal) : SandboxRehearsal :=
  match r.gateStart.bind r.sandbox.started? with
  | some failure =>
    { r with gateStart := none }.atEndpoint [.startReturns failure (.ofMillis 0)]
  | none => r

/-- A request that has passed the gate calls the sandbox. -/
def callFrom (r : SandboxRehearsal) (task : Nat) : SandboxRehearsal :=
  match r.endpoint.stage? task with
  | some (.ready _) =>
    let id := r.ids r.endpoint.invocations.length
    let r := r.atEndpoint [.invokes task id]
    match r.endpoint.invocations.getLast? with
    | some invocation =>
      { r with pairs := r.pairs ++ [(task, r.sandbox.calls.length)] }.beginCall invocation
    | none => r
  | _ => r

/-- The request of a call that has returned writes its lines, and is answered or held back. -/
def finishPair (r : SandboxRehearsal) (pair : Nat × Nat) : SandboxRehearsal :=
  let (task, call) := pair
  match r.endpoint.stage? task, r.sandbox.returned? call with
  | some (.invoking _ _), some (outcome, draft) =>
    let r := r.atEndpoint
      [.returns task outcome draft (.ofMillis 0), .writes task, .writes task]
    match (Disposition.of outcome).pause with
    | 0 => r
    | pause => r.ringIn pause (.request task)
  | _, _ => r

/-- Everybody takes the steps that they can. -/
def settle (r : SandboxRehearsal) : SandboxRehearsal :=
  let r := r.endProcesses.noticeAll.openGate
  let r := (List.range r.endpoint.tasks.length).foldl callFrom r
  r.pairs.foldl finishPair r

/-! ## The clock -/

/-- What an alarm leads to. -/
def fire (r : SandboxRehearsal) : Alarm → SandboxRehearsal
  | .start number => r.inSandbox [.lapses number, .yields number]
  | .call number => r.inSandbox [.expires number, .forgets number, .withdraws number]
  | .request task => r.atEndpoint [.resumes task]

/-- The alarm that rings next, with its time. Of several at the same time the oldest comes
    first. -/
def nextAlarm? (r : SandboxRehearsal) : Option (Nat × Alarm) :=
  r.alarms.foldl
    (fun best alarm =>
      match best with
      | some (time, _) => if alarm.1 < time then some alarm else best
      | none => some alarm)
    none

/-- The clock jumps to the next alarm. -/
def jump (r : SandboxRehearsal) : SandboxRehearsal :=
  match r.nextAlarm? with
  | some (time, alarm) =>
    ({ r with clock := max r.clock time, alarms := r.alarms.erase (time, alarm) }.fire alarm).settle
  | none => r

/-! ## Steps of a script -/

/-- What a job has come to by now. -/
def result (r : SandboxRehearsal) : Job → JobResult
  | .start number => (r.sandbox.started? number).elim .unfinished .start
  | .call number => (r.sandbox.returned? number).elim .unfinished fun (outcome, draft) =>
    .call outcome draft
  | .request task => (r.endpoint.answer? task).elim .unfinished .answered
  | .answered response => .answered response
  | .unreachable => .unreachable
  | .refused problem => .refused problem

/-- A step of a script begins: the job to wait for. -/
def begin (r : SandboxRehearsal) : SandboxAct → SandboxRehearsal × Job
  | .start => (r.beginStart, .start r.sandbox.starts.length)
  | .invoke invocation => (r.beginCall invocation, .call r.sandbox.calls.length)
  | .interface (.error problem) => (r, .refused problem)
  | .interface (.ok _) => (r, .unreachable)
  | .endpoint (.error problem) => (r, .refused problem)
  | .endpoint (.ok request) =>
    let task := r.endpoint.tasks.length
    let starts := r.endpoint.starts.length
    let (endpoint, answer) := r.endpoint.accept request
    let r := { r with endpoint }
    match answer with
    | some response => (r, .answered response)
    | none =>
      if r.endpoint.starts.length = starts then (r.callFrom task, .request task)
      else ({ r with gateStart := some r.sandbox.starts.length }.beginStart, .request task)

/-- Lets the clock jump until a job is done, or nothing more can happen. Every start, call and
    request has at most one alarm ahead of it, and a request makes one call and is held back once,
    so the number of jumps is bounded. -/
def awaitWith (fuel : Nat) (r : SandboxRehearsal) (job : Job) : SandboxRehearsal × JobResult :=
  match fuel, r.result job with
  | fuel + 1, .unfinished => awaitWith fuel r.jump job
  | _, result => (r, result)

/-- Waits for a job. -/
def await (r : SandboxRehearsal) (job : Job) : SandboxRehearsal × JobResult :=
  r.settle.awaitWith (r.alarms.length + 3 * r.endpoint.tasks.length) job

end SandboxRehearsal

end FunctionHost.Rehearsal
