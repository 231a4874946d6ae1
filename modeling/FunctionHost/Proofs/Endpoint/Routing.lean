-- SUMMARY: Which requests are dispatched and what comes of them, and how the others are answered.
import FunctionHost.Proofs.Endpoint.Service
import FunctionHost.Proofs.Endpoint.Start
import FunctionHost.Proofs.Http.Uri
import FunctionHost.Proofs.Text.Percent
import FunctionHost.Proofs.Text.Utf8

/-! # Routing

A request is dispatched exactly if it is posted to a path that begins with a slash and stands for a
text, and its body can be read. It is then invoked once, with one first line, and answered with what
the sandbox returned. All other requests are answered at once: with 405 if only the method is wrong,
but with 404 on a target without such a path, and with 400 if the path stands for no text. -/

namespace FunctionHost

namespace Endpoint

open Http.Uri (IsRooted)
open Telemetry (Line)

/-! ## Paths as texts -/

/-- The text that a path stands for, if what is left after percent-decoding is UTF-8. -/
def decodedPath? (path : String) : Option String :=
  Text.Utf8.text? (Text.Percent.decode (Text.Utf8.bytes path))

theorem decodedPath?_rooted {path : String} {remainder : List Char}
    (h : path.toList = '/' :: remainder) :
    decodedPath? path =
      (Text.Utf8.text? (Text.Percent.decode (Text.Utf8.encode remainder))).map ("/" ++ ·) := by
  have hbytes : Text.Utf8.bytes path = UInt8.ofNat 0x2F :: Text.Utf8.encode remainder := by
    rw [Text.Utf8.bytes, h, Text.Utf8.encode, List.flatMap_cons]
    rfl
  rw [decodedPath?, hbytes, Text.Percent.decode_cons_other (by decide),
    Text.Utf8.text?_ascii (by decide)]

/-- The path on which bodies are taken as payloads stands for itself. -/
theorem decodedPath?_invocationsPath : decodedPath? invocationsPath = some invocationsPath := by
  have hplain : Text.Percent.sign ∉ Text.Utf8.bytes invocationsPath := by
    decide +kernel
  rw [decodedPath?, Text.Percent.decode_of_plain hplain, Text.Utf8.bytes, Text.Utf8.text?_encode,
    String.ofList_toList]

theorem isRooted_invocationsPath : IsRooted invocationsPath := by
  decide +kernel

/-! ## Routes -/

theorem ofPath_of_unrooted {path : String} (h : ¬ IsRooted path) : Route.ofPath path = .nowhere := by
  have hother : path ≠ invocationsPath := by
    rintro rfl
    exact h isRooted_invocationsPath
  rw [Route.ofPath, if_neg hother]
  split
  · next hslash => exact absurd (by rw [IsRooted, hslash]; rfl) h
  · rfl

theorem ofPath_of_rooted {path : String} (h : IsRooted path) (other : path ≠ invocationsPath) :
    (Route.ofPath path = .malformed ∧ decodedPath? path = none) ∨
      ∃ remainder, Route.ofPath path = .address remainder ∧
        decodedPath? path = some ("/" ++ remainder) := by
  obtain ⟨remainder, hslash⟩ := h.exists_eq
  rw [Route.ofPath, if_neg other, decodedPath?_rooted hslash, hslash]
  simp only [Route.ofRemainder]
  cases Text.Utf8.text? (Text.Percent.decode (Text.Utf8.encode remainder)) with
  | none => exact .inl ⟨rfl, rfl⟩
  | some text => exact .inr ⟨text, rfl, rfl⟩

/-- Every path that begins with a slash leads somewhere. -/
theorem ofPath_ne_nowhere {path : String} (h : IsRooted path) : Route.ofPath path ≠ .nowhere := by
  by_cases hpath : path = invocationsPath
  · simp [Route.ofPath, hpath]
  · rcases ofPath_of_rooted h hpath with ⟨hroute, -⟩ | ⟨remainder, hroute, -⟩
    · simp [hroute]
    · simp [hroute]

/-! ## Receptions -/

/-- The answer to a path that stands for no text. -/
def malformedPath : Http.Response :=
  .text .badRequest "Invalid URL: Invalid UTF-8 in \x60path\x60"

variable {r : Http.Request}

theorem receive_of_unrooted (unrooted : ¬ IsRooted r.uri.path) :
    receive r = .answered (.bare .notFound) [] := by
  simp [receive, ofPath_of_unrooted unrooted]

theorem receive_of_other (rooted : IsRooted r.uri.path) (other : r.method ≠ .post) :
    receive r = .answered (.onlyAllowing "POST") [Log.warning "Unhandled request"] := by
  simp [receive, ofPath_ne_nowhere rooted, other]

theorem receive_of_unreadable (rooted : IsRooted r.uri.path) (posted : r.method = .post)
    (unreadable : decodedPath? r.uri.path = none) : receive r = .answered malformedPath [] := by
  have hother : r.uri.path ≠ invocationsPath := by
    intro hpath
    rw [hpath, decodedPath?_invocationsPath] at unreadable
    cases unreadable
  rcases ofPath_of_rooted rooted hother with ⟨hroute, -⟩ | ⟨remainder, -, decoded⟩
  · simp [receive, hroute, posted, malformedPath]
  · rw [unreadable] at decoded
    cases decoded

theorem receive_of_invocationsPath (posted : r.method = .post)
    (path : r.uri.path = invocationsPath) : receive r = withBody r r.body.bytes := by
  simp [receive, Route.ofPath, path, posted]

theorem receive_of_decoded (rooted : IsRooted r.uri.path) (posted : r.method = .post)
    (other : r.uri.path ≠ invocationsPath) (readable : decodedPath? r.uri.path ≠ none) :
    ∃ remainder, decodedPath? r.uri.path = some ("/" ++ remainder) ∧
      receive r = withBody r (eventPayload r remainder) := by
  rcases ofPath_of_rooted rooted other with ⟨-, unreadable⟩ | ⟨remainder, hroute, decoded⟩
  · exact absurd unreadable readable
  · exact ⟨remainder, decoded, by simp [receive, hroute, posted]⟩

/-- A request that is posted to a path that stands for a text only needs its body to be whole. -/
theorem receive_of_readable (rooted : IsRooted r.uri.path) (posted : r.method = .post)
    (readable : decodedPath? r.uri.path ≠ none) : ∃ payload, receive r = withBody r payload := by
  by_cases hpath : r.uri.path = invocationsPath
  · exact ⟨_, receive_of_invocationsPath posted hpath⟩
  · obtain ⟨remainder, -, hreceive⟩ := receive_of_decoded rooted posted hpath readable
    exact ⟨_, hreceive⟩

theorem withBody_of_whole (whole : r.body.failure = none) (payload : Bytes) :
    withBody r payload = .called ⟨r.headers, payload⟩ := by
  rw [withBody, whole]

theorem withBody_of_broken (broken : r.body.failure ≠ none) (payload : Bytes) :
    withBody r payload =
      .answered (.bare .internalServerError) [Log.error "failed to read invoke body"] := by
  rw [withBody]
  split
  · rfl
  · next whole => exact absurd whole broken

/-! ## What becomes of a request -/

/-- The first lines among some lines. -/
def startLines (lines : List Line) : List Line :=
  lines.filter fun l =>
    match l with
    | .started _ _ => true
    | _ => false

theorem startLines_script (c : Completion) (settings : Settings) :
    startLines (c.script settings) = [.started c.id settings.version] := by
  simp only [Completion.script]
  split <;> rfl

/-- What is known of a request once it is answered: it wrote one first line and was handed to the
    sandbox once, under the same id, and its answer is made from what the sandbox returned with. -/
structure Dispatched (e : Endpoint) (task : Nat) (call : Call) (events : List Event)
    (answer : Http.Response) (id : String) (outcome : Outcome) (draft : Draft) : Prop where
  handed : own task (record handed e events) =
    [Invocation.ofRequest e.plan.settings id call.headers call.payload]
  started : startLines (own task (journal e events)) = [.started id e.plan.settings.version]
  returned : own task (record resulting e events) = [(outcome, draft)]
  answer : answer = (Disposition.of outcome).answer e.plan.settings.timeoutSeconds draft

theorem stage?_of_answer? {e : Endpoint} {task : Nat} {answer : Http.Response}
    (h : e.answer? task = some answer) : e.stage? task = some (.answered answer) := by
  simp only [answer?] at h
  split at h
  · next stands =>
    cases h
    exact stands
  · cases h

/-- A request that arrived and stays is dispatched by the time it is answered. -/
theorem dispatched_of_answer? {e : Endpoint} (gathered : e.Gathered) (call : Call)
    {events : List Event} (stays : .leaves e.tasks.length ∉ events) {answer : Http.Response}
    (answered : ((e.arrive call).run events).answer? e.tasks.length = some answer) :
    ∃ id outcome draft,
      Dispatched (e.arrive call) e.tasks.length call events answer id outcome draft := by
  have arrived : (e.arrive call).Gathered := gathered.arrive call
  have served := (serves_arrive e call).run arrived stays
  obtain ⟨id, outcome, draft, hhanded, hresults, hanswer⟩ := served.of_answer? answered
  rw [plan_run] at hhanded hanswer
  rw [List.nil_append] at hhanded hresults
  have begins : Standing (e.arrive call).plan.settings ((e.arrive call).stage? e.tasks.length)
      [] [] [] := by
    rw [stage?_arrive, if_pos rfl]
    split
    · exact .ready none
    · exact .atGate
  have stands := begins.run arrived events
  rw [stage?_of_answer? answered] at stands
  obtain ⟨c, hids, hlines, -⟩ := stands.of_answered
  -- The id in the first line is that of the invocation that was handed over.
  have hid : c.id = id := by
    rw [List.nil_append, record_invoked, own_map_snd, hhanded] at hids
    exact (List.head_eq_of_cons_eq hids).symm
  refine ⟨id, outcome, draft, hhanded, ?_, hresults, hanswer⟩
  rw [List.nil_append] at hlines
  rw [hlines, startLines_script, hid]

/-- Every request is dispatched or answered at once. On a path that begins with a slash and stands
    for a text, every posted request whose body can be read is dispatched: it is handed to the
    sandbox once, writes one first line, and is answered with what the sandbox returned, as soon as
    it has taken its steps. What is handed over is what the sandbox gets, and what is written is
    what the sink gets. With another method it is answered with 405 and an empty body.

    But the asterisk and a bare authority are targets without such a path, and are answered with 404
    under any method. A path that stands for no text is answered with 400. -/
theorem dispatched_or_answered (plan : Plan) (sink : Telemetry.Sink) (before : List Event)
    (r : Http.Request) :
    let e := (fresh plan sink).run before
    -- Dispatched requests.
    (IsRooted r.uri.path → r.method = .post → decodedPath? r.uri.path ≠ none →
      r.body.failure = none →
      ∃ payload, e.accept r = (e.arrive ⟨r.headers, payload⟩, none) ∧
        ∀ after, .leaves e.tasks.length ∉ after →
          RecordShown (e.arrive ⟨r.headers, payload⟩) after ∧
          (∀ answer, ((e.arrive ⟨r.headers, payload⟩).run after).answer? e.tasks.length
              = some answer →
            ∃ id outcome draft, Dispatched (e.arrive ⟨r.headers, payload⟩) e.tasks.length
              ⟨r.headers, payload⟩ after answer id outcome draft) ∧
          ∀ c : Course,
            ((taskSteps e.tasks.length c).drop
              ((e.arrive ⟨r.headers, payload⟩).progress e.tasks.length)).Sublist after →
            (((e.arrive ⟨r.headers, payload⟩).run after).answer? e.tasks.length).isSome) ∧
    -- Requests that are answered at once.
    (IsRooted r.uri.path → r.method ≠ .post →
      e.accept r = (e.logging [Log.warning "Unhandled request"],
        some ⟨.methodNotAllowed, [("allow", "POST")], []⟩)) ∧
    (IsRooted r.uri.path → r.method = .post → decodedPath? r.uri.path = none →
      e.accept r = (e, some malformedPath)) ∧
    (IsRooted r.uri.path → r.method = .post → decodedPath? r.uri.path ≠ none →
      r.body.failure ≠ none →
      e.accept r = (e.logging [Log.error "failed to read invoke body"],
        some (.bare .internalServerError))) ∧
    (¬ IsRooted r.uri.path → e.accept r = (e, some (.bare .notFound))) ∧
    -- Targets without a path.
    ∀ target, Http.Uri.parse? target = some r.uri →
      (¬ IsRooted r.uri.path ↔ target = "*" ∨ r.uri = ⟨some target, "", none⟩) := by
  intro e
  have gathered : e.Gathered := (Gathered.fresh plan sink).run before
  have unlogged : e.logging [] = e := by simp [logging]
  refine ⟨?_, ?_, ?_, ?_, ?_, ?_⟩
  · intro rooted posted readable whole
    obtain ⟨payload, hreceive⟩ := receive_of_readable rooted posted readable
    rw [withBody_of_whole whole] at hreceive
    refine ⟨payload, by rw [accept, hreceive]; rfl, fun after stays => ⟨recordShown _ _, ?_, ?_⟩⟩
    · intro answer answered
      exact dispatched_of_answer? gathered ⟨r.headers, payload⟩ stays answered
    · intro c steps
      exact (serves_arrive e ⟨r.headers, payload⟩).ends (gathered.arrive _) stays steps
  · intro rooted other
    rw [accept, receive_of_other rooted other]
    rfl
  · intro rooted posted unreadable
    rw [accept, receive_of_unreadable rooted posted unreadable]
    simp only [unlogged]
  · intro rooted posted readable broken
    obtain ⟨payload, hreceive⟩ := receive_of_readable rooted posted readable
    rw [accept, hreceive, withBody_of_broken broken]
  · intro unrooted
    rw [accept, receive_of_unrooted unrooted]
    simp only [unlogged]
  · intro target htarget
    refine ⟨fun unrooted => ?_, ?_⟩
    · rcases Http.Uri.path_of_parse? htarget with rooted | ⟨hstar, -⟩ | hauthority
      · exact absurd rooted unrooted
      · exact .inl hstar
      · exact .inr hauthority
    · rintro (rfl | hauthority)
      · have hparse : Http.Uri.parse? "*" = some ⟨none, "*", none⟩ := by decide +kernel
        rw [hparse] at htarget
        rw [← Option.some.inj htarget]
        exact Http.Uri.not_isRooted_of_bare.1
      · rw [hauthority]
        exact Http.Uri.not_isRooted_of_bare.2

/-- A request without header fields and with an empty body. -/
def bareRequest? (method target : String) : Except Http.RequestProblem Http.Request :=
  Http.Request.ofParts? (Text.Utf8.bytes method) target [] ⟨[], none⟩

/-- A posted request whose body can be read is answered with 400, and requests with another method
    are answered with 404. -/
theorem answered_without_dispatch :
    (∃ r, bareRequest? "POST" "/%FF" = .ok r ∧ r.method = .post ∧ r.body.failure = none ∧
      ((fresh plainPlan .unlimited).accept r).2.map (·.status) = some .badRequest) ∧
    (∃ r, bareRequest? "OPTIONS" "*" = .ok r ∧ r.method ≠ .post ∧
      ((fresh plainPlan .unlimited).accept r).2.map (·.status) = some .notFound) ∧
    ∃ r, bareRequest? "CONNECT" "example.com:80" = .ok r ∧ r.method ≠ .post ∧
      ((fresh plainPlan .unlimited).accept r).2.map (·.status) = some .notFound := by
  refine ⟨⟨_, rfl, ?_, ?_, ?_⟩, ⟨_, rfl, ?_, ?_⟩, ⟨_, rfl, ?_, ?_⟩⟩ <;> decide +kernel

end Endpoint

end FunctionHost
