-- SUMMARY: What a request says about itself reaches the function along with the payload.
import FunctionHost.Proofs.Endpoint.Labels
import FunctionHost.Proofs.Exchange.Delivery

/-! # From a request to the function

The answer that hands out an invocation can be made whatever the request was, since the trace that
was decoded from its header fields may stand in a header field again. So the function is told under
which id its invocation is reported, under which name it was invoked and which trace the request
belongs to, and it gets the payload. -/

namespace FunctionHost.Endpoint

open Exchange.Api (Route Turn take)
open Telemetry (Line)

/-- A text that is made of the characters of a UUID. -/
def IsUuidText (id : String) : Prop :=
  ∀ c ∈ id.toList, c.isDigit ∨ ('a' ≤ c ∧ c ≤ 'f') ∨ c = '-'

instance (id : String) : Decidable (IsUuidText id) :=
  List.decidableBAll _ id.toList

/-- A response shows the trace of a request: that of the first value, decoded lossily, unless there
    is none or it is empty. A well-formed value is shown byte for byte. -/
structure ShowsTrace (response : Http.Response) (headers : Http.Headers) : Prop where
  shown : ∀ value, headers.first? Invocation.traceName = some value → value ≠ [] →
    response.header? "lambda-runtime-trace-id" = some (Text.Utf8.lossy value)
  absent : (∀ value, headers.first? Invocation.traceName = some value → value = []) →
    response.header? "lambda-runtime-trace-id" = none
  exact : ∀ value text, headers.first? Invocation.traceName = some value → value ≠ [] →
    Text.Utf8.text? value = some text →
    response.header? "lambda-runtime-trace-id" = some text ∧ Text.Utf8.bytes text = value

/-- A response tells the function what a request says of itself. -/
structure Tells (response : Http.Response) (plan : Plan) (call : Call) (lines : List Line) :
    Prop where
  status : response.status = .ok
  id : ∃ id, response.header? "lambda-runtime-aws-request-id" = some id ∧
    lines.filter isFirst = [.started id plan.settings.version]
  arn : response.header? "lambda-runtime-invoked-function-arn" =
    some (Settings.resource ++ plan.settings.name)
  trace : ShowsTrace response call.headers
  payload : response.body = call.payload

theorem isShown_of_uuid {id : String} (h : IsUuidText id) : ∀ c ∈ id.toList, Http.IsShown c := by
  intro c hc
  rcases h c hc with digit | ⟨low, high⟩ | rfl
  · exact Http.isShown_of_isDigit digit
  · have lower : 97 ≤ c.toNat := low
    have upper : c.toNat ≤ 102 := high
    exact .inr (by omega)
  · decide

variable {settings : Settings} {task : Nat} {call : Call} {invocation : Invocation}

/-- A trace that may stand in a header field is shown as it was decoded. -/
theorem showsTrace_of_delivers {response : Http.Response} {q : Queued} {headers : Http.Headers}
    (delivers : Exchange.Api.Delivers response q)
    (trace : q.invocation.trace = headers.firstText Invocation.traceName) :
    ShowsTrace response headers := by
  have text (value : Bytes) (found : headers.first? Invocation.traceName = some value) :
      headers.firstText Invocation.traceName = Text.Utf8.lossy value := by
    rw [Http.Headers.firstText, found]
  have shown (value : Bytes) (found : headers.first? Invocation.traceName = some value)
      (some : value ≠ []) :
      response.header? "lambda-runtime-trace-id" = .some (Text.Utf8.lossy value) := by
    have ne : Text.Utf8.lossy value ≠ "" := mt (Text.Utf8.lossy_eq_empty_iff value).1 some
    rw [delivers.trace, trace, text value found, if_neg (by simpa using ne)]
  refine ⟨shown, fun empty => ?_, fun value text found some wellFormed => ?_⟩
  · have nothing : headers.firstText Invocation.traceName = "" := by
      cases found : headers.first? Invocation.traceName with
      | none => rw [Http.Headers.firstText, found]
      | some value => rw [text value found, empty value found]; rfl
    rw [delivers.trace, trace, nothing]
    rfl
  · refine ⟨?_, Text.Utf8.bytes_of_text? wellFormed⟩
    rw [shown value found some, Text.Utf8.lossy_of_text? wellFormed]

theorem isShown_arn (name : Http.isHeaderText settings.name = true) :
    ∀ c ∈ settings.arn.toList, Http.IsShown c := by
  intro c hc
  rw [Settings.arn, String.toList_append] at hc
  rcases List.mem_append.1 hc with fixed | own
  · have shown : Settings.resource.toList.all (fun c => decide (Http.IsShown c)) = true := by
      decide +kernel
    exact of_decide_eq_true (List.all_eq_true.1 shown c fixed)
  · exact (Http.isHeaderText_iff settings.name).1 name c own

theorem deliverable_ofRequest {id : String} (plain : IsUuidText id) (legal : call.headers.Legal)
    (name : Http.isHeaderText settings.name = true) (deadline : Time.Instant) :
    Exchange.Api.Deliverable .get
      ⟨Invocation.ofRequest settings id call.headers call.payload, deadline⟩ where
  id := isShown_of_uuid plain
  arn := isShown_arn name
  trace := legal.isShown_firstText Invocation.traceName
  payload := nofun

/-- Whatever a task hands to the sandbox can be handed out to the function, and the answer tells it
    what the request says of itself. What tasks hand over is what the sandbox gets, and the lines
    that they write are those that the sink gets. -/
theorem tells_of_handed (plan : Plan) (sink : Telemetry.Sink) (events : List Event)
    (taken : (task, invocation) ∈ record handed (fresh plan sink) events)
    (called : ((fresh plan sink).run events).call? task = some call)
    (legal : call.headers.Legal) (name : Http.isHeaderText plan.settings.name = true)
    (id : IsUuidText invocation.id) (x : Exchange) (deadline : Time.Instant) (rest : List Queued)
    (queued : x.queue = ⟨invocation, deadline⟩ :: rest) (r : Http.Request)
    (get : r.method = .get) (asks : Route.ofPath? r.uri.path = some .next) (p : Poller)
    (turn : Turn) :
    RecordShown (fresh plan sink) events ∧
    ∃ response, (take x p r turn).2 = some response ∧ (take x p r turn).1.queue = rest ∧
      Tells response plan call (own task (journal (fresh plan sink) events)) := by
  obtain ⟨answered, left⟩ := Exchange.Api.take_first asks get queued p turn
  refine ⟨recordShown _ _, _, answered, left, ?_⟩
  -- The one invocation that the task hands over is made from its call.
  have first := (Closing.fresh plan sink).first_own events task
  rw [own_handed_eq (.fresh plan sink) taken] at first
  obtain ⟨call', id', called', heq⟩ := exists_call_of_handed taken
  obtain rfl : call' = call := Option.some.inj (called'.symm.trans called)
  have delivers : Exchange.Api.Delivers (Exchange.Api.deliveryFor r.method ⟨invocation, deadline⟩)
      ⟨invocation, deadline⟩ := by
    have plain : IsUuidText id' := by
      rw [heq] at id
      exact id
    rw [Exchange.Api.delivers_deliveryFor_iff, get, heq]
    exact deliverable_ofRequest plain legal name deadline
  exact {
    status := delivers.status
    id := ⟨invocation.id, delivers.id, first⟩
    arn := by rw [delivers.arn, heq]; rfl
    trace := showsTrace_of_delivers delivers (by rw [heq]; rfl)
    payload := by rw [delivers.body, heq]; rfl }

/-- A call whose trace is not UTF-8. -/
def tracedCall : Call :=
  ⟨⟨[("x-amzn-trace-id", [0x52, 0xFF, 0x3D]), ("x-amzn-trace-id", [0x09])]⟩, [0x7B, 0xFE]⟩

/-- A request with this call, up to the invocation of the sandbox. -/
def traced : List Event :=
  [.arrives tracedCall, .startReturns none (.ofSeconds 1),
    .invokes 0 "0f8fad5b-d9cb-469f-a165-70867728950e"]

theorem tells_of_handed_traced :
    let invocation := Invocation.ofRequest .default "0f8fad5b-d9cb-469f-a165-70867728950e"
      tracedCall.headers tracedCall.payload
    let x := Exchange.Api.holding ⟨invocation, ⟨0⟩⟩
    ((fresh ⟨.default, .default, .external⟩ .unlimited).run traced).invocations = [invocation] ∧
    ∃ response, (take x 0 (Exchange.Api.asking .get) .comes).2 = some response ∧
      response.status = .ok ∧
      response.header? "lambda-runtime-trace-id" = some "R\uFFFD=" ∧
      response.body = [0x7B, 0xFE] := by
  intro invocation x
  have accepted : Http.Headers.ofPairs?
      [(Text.Utf8.bytes "X-Amzn-Trace-Id", [0x52, 0xFF, 0x3D]),
        (Text.Utf8.bytes "x-amzn-trace-id", [0x09])] = .ok tracedCall.headers := by
    decide +kernel
  have taken : (0, invocation) ∈
      record handed (fresh ⟨.default, .default, .external⟩ .unlimited) traced := by
    decide +kernel
  obtain ⟨shown, response, answered, -, tells⟩ :=
    tells_of_handed _ _ _ taken rfl (Http.legal_of_ofPairs? accepted) (by decide +kernel)
      (by decide +kernel) x ⟨0⟩ [] rfl (Exchange.Api.asking .get) rfl (by decide +kernel) 0 .comes
  refine ⟨shown.invocations.trans (by decide +kernel), response, answered, tells.status, ?_,
    tells.payload⟩
  rw [tells.trace.shown [0x52, 0xFF, 0x3D] (by decide +kernel) (by decide)]
  decide +kernel

end FunctionHost.Endpoint
