-- SUMMARY: The endpoint as a state machine: requests pass the gate, invoke the sandbox and are answered.
import FunctionHost.Disposition
import FunctionHost.Endpoint.Route
import FunctionHost.Invocation
import FunctionHost.Startup.Gate
import FunctionHost.Startup.Plan
import FunctionHost.Telemetry.Sink

/-! # Endpoints

An endpoint serves any number of requests at once. Each of them waits at the gate until the
sandbox has been started, writes its first line and invokes the sandbox, writes its closing lines
when the sandbox is done, and is answered. Between any two of these steps others may take theirs,
and lines are written one at a time.

What the sandbox does is not decided here: how the start ends, and with which draft and outcome
an invocation returns, are part of the events. An event that does not apply to the state of its
task changes nothing. -/

namespace FunctionHost

/-- Where a request stands. A task that passed the gate knows how long the start took if it was
    the one that carried it out. -/
inductive Endpoint.Stage where
  | atGate
  | ready (init : Option Number.Binary64)
  | invoking (id : String) (init : Option Number.Binary64)
  | closing (lines : List Telemetry.Line) (answer : Http.Response) (pause : Nat)
  | pausing (answer : Http.Response)
  | answered (answer : Http.Response)
  | gone
  deriving DecidableEq

/-- A request that became an invocation, and where it stands. -/
structure Endpoint.Task where
  call : Endpoint.Call
  stage : Endpoint.Stage
  deriving DecidableEq

/-- What can happen at an endpoint. Tasks are numbered in order of arrival. -/
inductive Endpoint.Event where
  | arrives (call : Endpoint.Call)
  | startReturns (failure : Option String) (elapsed : Time.Span)
  | invokes (task : Nat) (id : String)
  | returns (task : Nat) (outcome : Outcome) (draft : Draft) (elapsed : Time.Span)
  | writes (task : Nat)
  | resumes (task : Nat)
  | leaves (task : Nat)
  deriving DecidableEq

/-- An endpoint: its plan, its gate, its tasks in order of arrival, where its lines go, what was
    logged, and the calls to the sandbox so far. -/
structure Endpoint where
  plan : Plan
  gate : Gate StartReport
  tasks : List Endpoint.Task
  sink : Telemetry.Sink
  log : List Log.Entry
  starts : List StartCall
  invocations : List Invocation
  deriving DecidableEq

namespace Endpoint

/-- An endpoint before its first request. -/
def fresh (plan : Plan) (sink : Telemetry.Sink) : Endpoint where
  plan
  gate := .fresh
  tasks := []
  sink
  log := []
  starts := []
  invocations := []

/-- Where a task stands, if there is such a task. -/
def stage? (e : Endpoint) (task : Nat) : Option Stage :=
  e.tasks[task]?.map Task.stage

/-- An endpoint with a task moved to another stage. -/
def move (e : Endpoint) (task : Nat) (stage : Stage) : Endpoint :=
  { e with tasks := e.tasks.modify task fun t => { t with stage } }

/-- An endpoint with more entries in its log. -/
def logging (e : Endpoint) (entries : List Log.Entry) : Endpoint :=
  { e with log := e.log ++ entries }

/-- An endpoint after a line was written. -/
def writing (e : Endpoint) (line : Telemetry.Line) : Endpoint :=
  let (sink, logged) := e.sink.write line
  { e with sink }.logging logged

/-- An endpoint whose gate has changed. Every start of the task at the gate is a call to the
    sandbox. -/
def withGate (e : Endpoint) (gate : Gate StartReport) : Endpoint :=
  { e with gate, starts := e.starts ++ List.replicate (gate.starts - e.gate.starts) e.plan.call }

/-- A task comes to the gate. -/
def arrive (e : Endpoint) (call : Call) : Endpoint :=
  let stage : Stage := if e.gate.isOpen then .ready none else .atGate
  { e.withGate (e.gate.enter e.tasks.length) with tasks := e.tasks ++ [⟨call, stage⟩] }

/-- The start of the sandbox returns. Everyone at the gate passes it, and only the one that
    carried out the start knows how long it took. -/
def startReturned (e : Endpoint) (runner : Caller) (failure : Option String)
    (elapsed : Time.Span) : Endpoint :=
  let report := e.plan.report failure elapsed
  let passed := e.gate.waiting.foldl (fun e task => e.move task (.ready none)) e
  { passed.move runner (.ready (some report.duration)) with gate := e.gate.finish report }.logging
    (Plan.logged failure)

/-- A task writes its first line and invokes the sandbox. -/
def invoke (e : Endpoint) (task : Nat) (call : Call) (init : Option Number.Binary64)
    (id : String) : Endpoint :=
  let invocation := Invocation.ofRequest e.plan.settings id call.headers call.payload
  let e := e.writing (.started id e.plan.settings.version)
  { e.move task (.invoking id init) with invocations := e.invocations ++ [invocation] }

/-- What a task does once its closing lines are written. -/
def afterClosing (answer : Http.Response) (pause : Nat) : Stage :=
  if pause = 0 then .answered answer else .pausing answer

/-- The stage of a task with some closing lines left to write. -/
def closingStage (lines : List Telemetry.Line) (answer : Http.Response) (pause : Nat) : Stage :=
  if lines.isEmpty then afterClosing answer pause else .closing lines answer pause

/-- The sandbox is done with an invocation. -/
def returned (e : Endpoint) (task : Nat) (id : String) (init : Option Number.Binary64)
    (outcome : Outcome) (draft : Draft) (elapsed : Time.Span) : Endpoint :=
  let settings := e.plan.settings
  let disposition := Disposition.of outcome
  let lines :=
    if disposition.reports then
      Telemetry.closing id init settings.memory elapsed settings.timeout
    else []
  let answer := disposition.answer settings.timeoutSeconds draft
  (e.move task (closingStage lines answer disposition.pause)).logging (Disposition.logged outcome)

/-- A client goes away. What its task was doing is dropped where it stands. -/
def depart (e : Endpoint) (task : Nat) : Endpoint :=
  (e.withGate (e.gate.leave task)).move task .gone

/-- An endpoint after an event. -/
def step (e : Endpoint) : Event → Endpoint
  | .arrives call => e.arrive call
  | .startReturns failure elapsed =>
    match e.gate.runner with
    | some runner => e.startReturned runner failure elapsed
    | none => e
  | .invokes task id =>
    match e.tasks[task]? with
    | some ⟨call, .ready init⟩ => e.invoke task call init id
    | _ => e
  | .returns task outcome draft elapsed =>
    match e.stage? task with
    | some (.invoking id init) => e.returned task id init outcome draft elapsed
    | _ => e
  | .writes task =>
    match e.stage? task with
    | some (.closing (line :: rest) answer pause) =>
      (e.writing line).move task (closingStage rest answer pause)
    | _ => e
  | .resumes task =>
    match e.stage? task with
    | some (.pausing answer) => e.move task (.answered answer)
    | _ => e
  | .leaves task =>
    match e.stage? task with
    | some (.answered _) => e
    | some _ => e.depart task
    | none => e

/-- A request comes to an endpoint. It is answered at once, or its task arrives at the gate. -/
def accept (e : Endpoint) (r : Http.Request) : Endpoint × Option Http.Response :=
  match receive r with
  | .answered response logged => (e.logging logged, some response)
  | .called call => (e.step (.arrives call), none)

/-- An endpoint after several events. -/
def run (e : Endpoint) (events : List Event) : Endpoint :=
  events.foldl step e

/-- The answer to a task, once it has one. -/
def answer? (e : Endpoint) (task : Nat) : Option Http.Response :=
  match e.stage? task with
  | some (.answered answer) => some answer
  | _ => none

end Endpoint

end FunctionHost
