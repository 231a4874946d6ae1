-- SUMMARY: What reaches the client of what the sandbox drafted, by outcome.
import FunctionHost.Proofs.Endpoint.Service
import FunctionHost.Proofs.Endpoint.Start

/-! # Answers by outcome

A sandbox may set a status and write bytes as often as it likes and in any order before it returns.
The draft comes down to the last status and all that was written, and the outcome decides which of
the two the client sees. Where it sees neither, the endpoint itself does not depend on the draft. -/

namespace FunctionHost

/-! ## Drafts -/

namespace Draft

/-- The status that an edit sets. -/
def Edit.status? : Edit → Option Http.Status
  | .status s => some s
  | .write _ => none

/-- The bytes that an edit appends. -/
def Edit.content : Edit → Bytes
  | .status _ => []
  | .write bytes => bytes

/-- The last status that some edits set. -/
def lastStatus? (edits : List Edit) : Option Http.Status :=
  edits.reverse.findSome? Edit.status?

/-- All that some edits write, in order. -/
def written (edits : List Edit) : Bytes :=
  edits.flatMap Edit.content

theorem lastStatus?_cons (edit : Edit) (rest : List Edit) :
    lastStatus? (edit :: rest) = (lastStatus? rest).or edit.status? := by
  simp [lastStatus?, List.findSome?_append]

/-- A draft after some edits has the last status among them, and all their bytes at its end. -/
theorem applyAll_eq (d : Draft) (edits : List Edit) :
    d.applyAll edits = ⟨(lastStatus? edits).or d.status, d.body ++ written edits⟩ := by
  induction edits generalizing d with
  | nil => simp [applyAll, lastStatus?, written]
  | cons edit rest ih =>
    have hrest : d.applyAll (edit :: rest) = (d.apply edit).applyAll rest := rfl
    rw [hrest, ih, lastStatus?_cons, Option.or_assoc]
    cases edit with
    | status status => rfl
    | write content => simp [apply, write, Edit.status?, Edit.content, written]

end Draft

/-! ## Outcomes -/

namespace Disposition

/-- The status and the body that a client sees, by the outcome of its invocation and what the
    sandbox did to the draft. -/
def seen (seconds : UInt64) (edits : List Draft.Edit) : Outcome → Http.Status × Bytes
  | .served | .failed .invokeResponseAlreadyWritten =>
    ((Draft.lastStatus? edits).getD .ok, Draft.written edits)
  | .failed .initDoneFailed | .failed .invokeDoneFailed => (.badGateway, Draft.written edits)
  | .failed .alreadyReserved | .failed .notReserved | .failed .alreadyReplied
  | .failed .alreadyInvocating => (.badRequest, [])
  | .failed .internalServerError => (.internalServerError, [])
  | .failed .reserveReservationDone | .failed .invokeReservationDone
  | .failed .releaseReservationDone => (.gatewayTimeout, [])
  | .failed .invokeTimeout =>
    (.ok, Text.Utf8.bytes ("Task timed out after " ++ toString seconds.toNat ++ ".00 seconds"))

/-- What was written reaches the client. -/
def ShowsDraft (outcome : Outcome) : Prop :=
  outcome = .served ∨ outcome = .failed .invokeResponseAlreadyWritten ∨
    outcome = .failed .initDoneFailed ∨ outcome = .failed .invokeDoneFailed

theorem answer_applyAll (seconds : UInt64) (edits : List Draft.Edit) (outcome : Outcome) :
    let answer := (of outcome).answer seconds (Draft.blank.applyAll edits)
    (answer.status, answer.body) = seen seconds edits outcome := by
  have hdraft : Draft.blank.applyAll edits = ⟨Draft.lastStatus? edits, Draft.written edits⟩ := by
    simp [Draft.applyAll_eq, Draft.blank]
  rw [hdraft]
  cases outcome with
  | served => rfl
  | failed failure => cases failure <;> rfl

/-- Where nothing of the draft reaches the client, the answer is the same for every draft. -/
theorem answer_of_hidden {outcome : Outcome} (hidden : ¬ ShowsDraft outcome) (seconds : UInt64)
    (draft draft' : Draft) :
    (of outcome).answer seconds draft = (of outcome).answer seconds draft' := by
  cases outcome with
  | served => exact absurd (.inl rfl) hidden
  | failed failure =>
    cases failure with
    | invokeResponseAlreadyWritten | initDoneFailed | invokeDoneFailed =>
      exact absurd (by simp [ShowsDraft]) hidden
    | alreadyReserved | notReserved | alreadyReplied | alreadyInvocating | internalServerError
    | reserveReservationDone | invokeReservationDone | releaseReservationDone | invokeTimeout => rfl

end Disposition

/-! ## Answers -/

namespace Endpoint

variable {e : Endpoint} {task : Nat} {call : Call} {invocations : List Invocation}
  {results : List (Outcome × Draft)} {outcome : Outcome} {draft : Draft} {elapsed : Time.Span}

/-- Where nothing of the draft reaches the client, the endpoint does the same with every draft. -/
theorem step_returns_of_hidden (hidden : ¬ Disposition.ShowsDraft outcome) (draft draft' : Draft) :
    e.step (.returns task outcome draft elapsed)
      = e.step (.returns task outcome draft' elapsed) := by
  simp only [step, returned, Disposition.answer_of_hidden hidden _ draft draft']

/-- Once the sandbox has returned to it, a task has taken three of its steps. -/
theorem Service.three_le_progress {settings : Settings} {stage : Stage} {result : Outcome × Draft}
    (h : Service settings call stage invocations [result]) : 3 ≤ stage.progress := by
  cases h with
  | ending id outcome draft _ answer soon =>
    cases stage with
    | atGate | ready | invoking => cases answer
    | closing lines answer pause =>
      have few : lines.length ≤ 2 := soon.2
      simp only [Stage.progress]
      omega
    | pausing | answered | gone => simp [Stage.progress]

/-- What a task has in hand to which the sandbox returns while it is invoked. -/
theorem Serves.returns {id : String} {init : Option Number.Binary64}
    (h : e.Serves task call invocations results) (gathered : e.Gathered)
    (invoking : e.stage? task = some (.invoking id init)) (outcome : Outcome) (draft : Draft)
    (elapsed : Time.Span) :
    ∃ invocations, (e.step (.returns task outcome draft elapsed)).Serves task call invocations
      [(outcome, draft)] := by
  have nothing : results = [] := by
    obtain ⟨stage, stands, service⟩ := h.service
    obtain rfl : stage = .invoking id init := Option.some.inj (stands.symm.trans invoking)
    cases service with
    | invoking => rfl
    | ending _ _ _ _ answer => cases answer
  have hresulting : own task (resulting e (.returns task outcome draft elapsed))
      = [(outcome, draft)] := by
    simp only [resulting, invoking]
    exact own_single_same _
  have hstep := h.step gathered (v := .returns task outcome draft elapsed) (by simp)
  rw [nothing, hresulting] at hstep
  exact ⟨_, hstep⟩

/-- The steps that a task may have to take after the sandbox has returned to it. -/
def closingSteps (task : Nat) : List Event :=
  [.writes task, .writes task, .resumes task]

/-- A task to which the sandbox has returned is answered with what is made from that, and is so as
    soon as it has taken its last steps, whatever others do in between. -/
theorem Serves.answered (h : e.Serves task call invocations [(outcome, draft)])
    (gathered : e.Gathered) {events : List Event} (stays : .leaves task ∉ events) :
    (∀ answer, (e.run events).answer? task = some answer →
      answer = (Disposition.of outcome).answer e.plan.settings.timeoutSeconds draft) ∧
    ((closingSteps task).Sublist events → ((e.run events).answer? task).isSome) := by
  constructor
  · intro answer answered
    obtain ⟨_, outcome', draft', _, hresults, hanswer⟩ :=
      (h.run gathered stays).of_answer? answered
    obtain ⟨⟨rfl, rfl⟩, -⟩ : (outcome = outcome' ∧ draft = draft') ∧
      own task (record resulting e events) = [] := by simpa using hresults
    rw [hanswer, plan_run]
  · intro steps
    obtain ⟨stage, stands, service⟩ := h.service
    have hprogress : 3 ≤ e.progress task := by
      simpa [progress, stands] using service.three_le_progress
    -- The first three steps are behind the task, so it does not matter what they would have been.
    let c : Course := ⟨none, .ofSeconds 0, "", outcome, draft, .ofSeconds 0⟩
    refine h.ends gathered stays (c := c) (List.Sublist.trans ?_ steps)
    exact List.drop_sublist_drop_left (taskSteps task c) hprogress

/-- While a task is invoked, the sandbox sets statuses and writes bytes in any way, and then returns
    with any outcome. The client is answered as soon as the task has taken its last steps, and sees
    the status and the body that go with the outcome: the last status and all that was written, all
    that was written under a status of the endpoint's own, or nothing of either. In the last case
    outcome and timeout alone decide about the answer, and the endpoint comes to the very same
    state, whatever the sandbox wrote. -/
theorem answered_by_outcome (plan : Plan) (sink : Telemetry.Sink) (before : List Event)
    (call : Call) (during since : List Event) (id : String) (init : Option Number.Binary64)
    (outcome : Outcome) (edits : List Draft.Edit) (elapsed : Time.Span) :
    let e := (fresh plan sink).run before
    let task := e.tasks.length
    let invoked := (e.arrive call).run during
    let done (edits : List Draft.Edit) :=
      (invoked.step (.returns task outcome (Draft.blank.applyAll edits) elapsed)).run since
    .leaves task ∉ during → .leaves task ∉ since →
    invoked.stage? task = some (.invoking id init) →
    (∀ answer, (done edits).answer? task = some answer →
      (answer.status, answer.body)
        = Disposition.seen plan.settings.timeoutSeconds edits outcome) ∧
    ((closingSteps task).Sublist since → ((done edits).answer? task).isSome) ∧
    (¬ Disposition.ShowsDraft outcome →
      (∀ answer, (done edits).answer? task = some answer →
        answer = (Disposition.of outcome).answer plan.settings.timeoutSeconds .blank) ∧
      ∀ edits', done edits = done edits') := by
  intro e task invoked done stays staysOn invoking
  have gathered : e.Gathered := (Gathered.fresh plan sink).run before
  have arrived : (e.arrive call).Gathered := gathered.arrive call
  have served := (serves_arrive e call).run arrived stays
  obtain ⟨_, returned⟩ := served.returns (arrived.run during) invoking outcome
    (Draft.blank.applyAll edits) elapsed
  obtain ⟨made, ends⟩ := returned.answered ((arrived.run during).step _) staysOn
  have hplan : (invoked.step (.returns task outcome (Draft.blank.applyAll edits) elapsed)).plan
      = plan := by
    rw [(transition invoked _).plan, plan_run]
    exact plan_run _ before
  rw [hplan] at made
  refine ⟨?_, ends, fun hidden => ⟨?_, ?_⟩⟩
  · intro answer answered
    rw [made answer answered]
    exact Disposition.answer_applyAll _ edits outcome
  · intro answer answered
    exact (made answer answered).trans (Disposition.answer_of_hidden hidden _ _ _)
  · intro edits'
    exact congrArg (run · since) (step_returns_of_hidden hidden _ _)

/-- The start returns, and the first request is invoked. -/
def firstInvoked : List Event :=
  [.startReturns none (.ofSeconds 1), .invokes 0 "a"]

/-- Statuses and bytes in turn. -/
def scribbles : List Draft.Edit :=
  [.write [1], .status .accepted, .write [2], .status .badRequest, .write [3]]

theorem answered_by_outcome_scribbles :
    let done (outcome : Outcome) :=
      ((((fresh plainPlan .unlimited).arrive bareCall).run firstInvoked).step
        (.returns 0 outcome (Draft.blank.applyAll scribbles) (.ofSeconds 2))).run (closingSteps 0)
    ((done .served).answer? 0).map (fun a => (a.status, a.body)) = some (.badRequest, [1, 2, 3]) ∧
    ((done (.failed .invokeDoneFailed)).answer? 0).map (fun a => (a.status, a.body))
      = some (.badGateway, [1, 2, 3]) ∧
    (done (.failed .internalServerError)).answer? 0 = some (.bare .internalServerError) := by
  have stays : Event.leaves 0 ∉ firstInvoked := by simp [firstInvoked]
  have staysOn : Event.leaves 0 ∉ closingSteps 0 := by simp [closingSteps]
  have result (outcome : Outcome) := answered_by_outcome plainPlan .unlimited [] bareCall
    firstInvoked (closingSteps 0) "a" _ outcome scribbles (.ofSeconds 2) stays staysOn rfl
  have answered (outcome : Outcome) := Option.isSome_iff_exists.1
    ((result outcome).2.1 (List.Sublist.refl _))
  refine ⟨?_, ?_, ?_⟩
  · obtain ⟨answer, hanswer⟩ := answered .served
    exact (congrArg _ hanswer).trans (congrArg some ((result .served).1 answer hanswer))
  · obtain ⟨answer, hanswer⟩ := answered (.failed .invokeDoneFailed)
    exact (congrArg _ hanswer).trans (congrArg some ((result _).1 answer hanswer))
  · obtain ⟨answer, hanswer⟩ := answered (.failed .internalServerError)
    have hidden : ¬ Disposition.ShowsDraft (.failed .internalServerError) := by
      simp [Disposition.ShowsDraft]
    exact hanswer.trans (congrArg some (((result _).2.2 hidden).1 answer hanswer))

end Endpoint

end FunctionHost
