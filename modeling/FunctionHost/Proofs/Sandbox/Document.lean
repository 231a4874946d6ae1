-- SUMMARY: The documents of errors are read back letter by letter; starts tell why the function exited.
import FunctionHost.Proofs.Sandbox.Start
import FunctionHost.Proofs.UrlEvent.Document

/-! # What the documents of errors tell

Whatever characters the type and the message of an error have, the document of the error is read
back as just these two texts, and its description shows them. The document that the exit of the
function leaves for a start therefore shows the reason of the exit, and this is what every start
returns that was still waiting for the function. -/

namespace FunctionHost.Sandbox

open Exchange

/-! ## Documents -/

/-- A document is an object with the type and the message of an error and nothing else, and is
    described by them. -/
structure Tells (document : Bytes) (type message : String) : Prop where
  read : ∃ v, (Text.Utf8.text? document).bind Json.document? = some v ∧
    v.texts? = some [("errorMessage", message), ("errorType", type)]
  described : describeDocument document = type ++ ": " ++ message

theorem document?_errorDocument (type message : String) :
    (Text.Utf8.text? (errorDocument type message)).bind Json.document? =
      some (Json.ofMembers
        [("errorMessage", Json.ofText message), ("errorType", Json.ofText type)]) := by
  unfold errorDocument Text.Utf8.bytes
  rw [Text.Utf8.text?_encode, String.ofList_toList, Option.bind_some]
  apply Json.document?_render
  · simp [Json.ofMembers, Json.isReadable, Json.membersReadable, Json.ofText]
  · simp [Json.ofMembers, Json.depth, Json.depthOfMembers, Json.ofText, Json.maxDepth]

theorem tells_errorDocument (type message : String) :
    Tells (errorDocument type message) type message := by
  constructor
  · exact ⟨_, document?_errorDocument type message, rfl⟩
  · unfold describeDocument
    rw [document?_errorDocument]
    rfl

theorem tells_startExitDocument (reason : String) :
    Tells (startExitDocument reason) "Runtime.ExitError"
      ("Runtime exited with error: " ++ reason) :=
  tells_errorDocument _ _

theorem tells_exitDocument (id reason : String) :
    Tells (exitDocument id reason) "Runtime.ExitError"
      ("RequestId: " ++ id ++ " Error: Runtime exited with error: " ++ reason) := by
  have joined : " Error: Runtime exited with error: " =
      " Error: " ++ "Runtime exited with error: " := rfl
  rw [joined, ← String.append_assoc, String.append_assoc]
  exact tells_errorDocument _ _

/-! ## Exits -/

variable {s : Sandbox} {e : Event} {start : Nat}

/-- The reason of an exit that an event is. -/
def Event.exitReason? : Event → Option String
  | .exits _ reason => some reason
  | _ => none

/-- The reasons of the exits among events, in order of coming. -/
def exitReasons (events : List Event) : List String :=
  events.filterMap Event.exitReason?

/-- Exits are recorded as they come, each with the document that tells its reason. -/
theorem recorded_step (s : Sandbox) (e : Event) :
    (s.step e).traffic.recorded = s.traffic.recorded ++
      e.exitReason?.toList.map fun reason => (reason, startExitDocument reason) := by
  by_cases process : e.IsOfProcess
  · cases e with
    | begins timeout refusal =>
      cases refusal with
      | none => simp [step, begin, Event.exitReason?]
      | some problem =>
        have still : s.Unmoved (s.passing (.failsStart (launchDocument problem.message))) :=
          .passing rfl
        simpa [step, begin, passing, Event.exitReason?] using still.recorded
    | settles | lapses =>
      simp only [step]
      split <;> simp [moveStart, Event.exitReason?]
    | yields start =>
      simp only [step]
      split
      · have still : s.Unmoved (s.passing (.failsStart overdueDocument)) := .passing rfl
        simpa [passing, moveStart, Event.exitReason?] using still.recorded
      · simp [Event.exitReason?]
    | exits program reason =>
      simp [step, passing, logging, Traffic.step, Traffic.recorded, Event.exitReason?]
    | _ => exact process.elim
  · rw [(unmoved_step process).recorded]
    cases e with
    | exits => exact absurd trivial process
    | _ => simp [Event.exitReason?]

theorem recorded_run (s : Sandbox) (events : List Event) :
    (s.run events).traffic.recorded = s.traffic.recorded ++
      (exitReasons events).map fun reason => (reason, startExitDocument reason) := by
  induction events generalizing s with
  | nil => simp [exitReasons]
  | cons e rest ih =>
    rw [run_cons, ih, recorded_step, exitReasons, exitReasons, List.append_assoc]
    cases hreason : e.exitReason? <;> simp [hreason]

/-- The start was pending until the exit of the function for some reason was reported, and failed
    with that report. -/
def FailedByExit (events : List Event) (reason : String) : Prop :=
  ∃ sooner exit later, events = sooner ++ .reports exit :: later ∧
    (exitReasons sooner)[exit]? = some reason ∧
    (fresh.run sooner).exchange.phase = .pending ∧
    ((fresh.run sooner).step (.reports exit)).exchange.phase = .failed

theorem FailedByExit.failed {events : List Event} {reason : String}
    (h : FailedByExit events reason) :
    (fresh.run events).exchange.phase = .failed ∧
      (fresh.run events).exchange.startError = some (startExitDocument reason) := by
  obtain ⟨sooner, exit, later, rfl, hreason, pending, failed⟩ := h
  have hrecorded := recorded_run fresh sooner
  have hexit : (fresh.run sooner).traffic.recorded[exit]? =
      some (reason, startExitDocument reason) := by
    rw [hrecorded]
    simp [hreason, fresh, Traffic.fresh, Traffic.recorded]
  obtain ⟨r, reported, -, document⟩ : ∃ r, (fresh.run sooner).traffic.exits[exit]? = some r ∧
      r.reason = reason ∧ r.document = startExitDocument reason := by
    simpa [Traffic.recorded] using hexit
  have startError : ((fresh.run sooner).step (.reports exit)).exchange.startError =
      some r.document :=
    Traffic.startError_of_reports reported pending failed
  -- What is decided by the report stays so whatever comes later.
  obtain ⟨phase, kept⟩ :=
    (settles_run ((fresh.run sooner).step (.reports exit)) later).of_decided (by simp [failed])
  rw [run_append, run_cons]
  exact ⟨phase.trans failed, kept.trans (document ▸ startError)⟩

/-! ## Starts -/

/-- Where a start stands after an event. -/
def StartStage.after (x : Exchange) (start : Nat) (e : Event) : StartStage → StartStage
  | .waiting =>
    if e = .settles start ∧ x.phase ≠ .pending then .returned (startFailure x)
    else if e = .lapses start ∧ x.phase = .pending then .overdue
    else .waiting
  | .overdue => if e = .yields start then .returned (some overdueMessage) else .overdue
  | .returned failure => .returned failure

/-- What happens to others leaves a start where it stands. -/
theorem stands_of_other {stage : StartStage} (h : s.starts[start]? = some stage)
    (settles : e ≠ .settles start) (lapses : e ≠ .lapses start) (yields : e ≠ .yields start) :
    (s.step e).starts[start]? = some stage := by
  by_cases process : e.IsOfProcess
  · cases e with
    | begins timeout refusal =>
      have begun : start < s.starts.length := (List.getElem?_eq_some_iff.1 h).1
      cases refusal <;> simp [step, begin, passing, List.getElem?_append_left begun, h]
    | settles other | lapses other | yields other =>
      have apart : other ≠ start := by
        rintro rfl
        contradiction
      simp only [step]
      split
      · simp [moveStart, passing, apart, h]
      · exact h
    | exits program reason => exact h
    | _ => exact process.elim
  · rw [(unmoved_step process).starts, h]

/-- A start only moves by its own events. -/
theorem stands_step {stage : StartStage} (h : s.starts[start]? = some stage) (e : Event) :
    (s.step e).starts[start]? = some (stage.after s.exchange start e) := by
  have moved (next : StartStage) : (s.starts.set start next)[start]? = some next :=
    List.getElem?_set_self (List.getElem?_eq_some_iff.1 h).1
  by_cases settles : e = .settles start
  · subst settles
    cases stage <;> by_cases pending : s.exchange.phase = .pending <;>
      simp [step, StartStage.after, moveStart, h, pending, moved]
  by_cases lapses : e = .lapses start
  · subst lapses
    cases stage <;> by_cases pending : s.exchange.phase = .pending <;>
      simp [step, StartStage.after, moveStart, h, pending, moved]
  by_cases yields : e = .yields start
  · subst yields
    cases stage <;> simp [step, StartStage.after, moveStart, passing, h, moved]
  rw [stands_of_other h settles lapses yields]
  cases stage <;> simp [StartStage.after, settles, lapses, yields]

theorem returned_run {failure : Option String}
    (h : s.starts[start]? = some (.returned failure)) (events : List Event) :
    (s.run events).starts[start]? = some (.returned failure) := by
  induction events generalizing s with
  | nil => exact h
  | cons e rest ih => exact ih (stands_step h e)

/-- Once it is decided how the function was started, a start that still waits returns just that, as
    soon as it takes note. -/
theorem settles_run_of_waiting (decided : s.exchange.phase ≠ .pending)
    (waits : s.starts[start]? = some .waiting) (events : List Event) :
    (s.run events).starts[start]? =
      some (if .settles start ∈ events then .returned (startFailure s.exchange) else .waiting) := by
  induction events generalizing s with
  | nil => exact waits
  | cons e rest ih =>
    have stands := stands_step waits e
    by_cases settles : e = .settles start
    · subst settles
      simp only [StartStage.after, decided, ne_eq, not_false_eq_true, and_self, if_true] at stands
      simpa using returned_run stands rest
    · -- Its time can no longer be over, because nothing is pending any more.
      simp only [StartStage.after, settles, decided, false_and, and_false, if_false] at stands
      obtain ⟨phase, startError⟩ := (settles_step s e).of_decided decided
      have same : startFailure (s.step e).exchange = startFailure s.exchange := by
        unfold startFailure
        rw [phase, startError]
      rw [run_cons, ih (phase ▸ decided) stands, same]
      simp [Ne.symm settles]

/-! ## What is told -/

/-- The documents of errors tell type and message letter by letter. That of an exit tells the id of
    the invocation and the reason of the exit, and a start that waits for a function that exited
    returns the reason of the exit once it takes note. -/
theorem errors_told_verbatim :
    (∀ type message, Tells (errorDocument type message) type message) ∧
    (∀ id reason, Tells (exitDocument id reason) "Runtime.ExitError"
      ("RequestId: " ++ id ++ " Error: Runtime exited with error: " ++ reason)) ∧
    ∀ (before after : List Event) (reason : String) (start : Nat), FailedByExit before reason →
      (fresh.run before).starts[start]? = some .waiting →
      ((fresh.run before).run after).started? start =
        if .settles start ∈ after then
          some (some ("Runtime.ExitError: Runtime exited with error: " ++ reason))
        else none := by
  refine ⟨tells_errorDocument, tells_exitDocument, ?_⟩
  intro before after reason start exited waits
  obtain ⟨failed, startError⟩ := exited.failed
  have failure : startFailure (fresh.run before).exchange =
      some ("Runtime.ExitError: Runtime exited with error: " ++ reason) := by
    unfold startFailure
    rw [failed, startError, Option.map_some, (tells_startExitDocument reason).described,
      ← String.append_assoc]
    rfl
  have decided : (fresh.run before).exchange.phase ≠ .pending := by simp [failed]
  have stands := settles_run_of_waiting decided waits after
  rw [failure] at stands
  unfold started?
  by_cases settles : .settles start ∈ after
  · rw [stands, if_pos settles, if_pos settles]
  · rw [stands, if_neg settles, if_neg settles]

/-- The function exits while a start waits for it. -/
def exitWhileStarting : List Event :=
  [.begins 3000 none, .exits "bootstrap" "exit \"3\"\n😀", .reports 0]

theorem errors_told_verbatim_exitWhileStarting :
    FailedByExit exitWhileStarting "exit \"3\"\n😀" ∧
    ((fresh.run exitWhileStarting).run [.settles 0]).started? 0 =
      some (some "Runtime.ExitError: Runtime exited with error: exit \"3\"\n😀") := by
  have exited : FailedByExit exitWhileStarting "exit \"3\"\n😀" :=
    ⟨[.begins 3000 none, .exits "bootstrap" "exit \"3\"\n😀"], 0, [], rfl, rfl, rfl, rfl⟩
  exact ⟨exited, errors_told_verbatim.2.2 exitWhileStarting [.settles 0] _ 0 exited rfl⟩

end FunctionHost.Sandbox
