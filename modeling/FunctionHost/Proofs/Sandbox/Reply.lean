-- SUMMARY: A call that is served gets a reply to its own invocation, and each invocation is replied to once.
import FunctionHost.Proofs.Exchange.Ledger
import FunctionHost.Proofs.Sandbox.Reservation

/-! # Replies to calls

Calls come with ids of their own, so that nobody registers under an id that was served before.
Every reply that was taken in is then the only one under its id, and a call that is served returns
the body that was posted under the id of its invocation, whatever else is replied to. -/

namespace FunctionHost.Sandbox

open Exchange

/-! ## Histories -/

/-- The id of the invocation that comes with a new call. -/
def arrivedId? : Event → Option String
  | .arrives invocation => some invocation.id
  | _ => none

/-- The ids of the invocations of all calls. -/
def callIds (s : Sandbox) : List String :=
  s.calls.map fun c => c.invocation.id

/-- The replies that are taken in over some events, with the id each was posted under. -/
def acceptedReplies (s : Sandbox) : List Event → List (String × Bytes)
  | [] => []
  | e :: rest => (s.acceptedReply? e).toList ++ (s.step e).acceptedReplies rest

variable {s : Sandbox} {e : Event} {log : List (String × Bytes)}

theorem acceptedReply?_eq_some_iff {id : String} {body : Bytes} :
    s.acceptedReply? e = some (id, body) ↔
      ∃ r, e = .requests r ∧ Api.repliedId? r = some id ∧ Api.Accepts s.exchange r ∧
        r.body.bytes = body := by
  cases e with
  | requests r =>
    cases hid : Api.repliedId? r with
    | none => simp [acceptedReply?, hid]
    | some id' =>
      by_cases haccepts : Api.Accepts s.exchange r <;> simp [acceptedReply?, hid, haccepts]
  | _ => simp [acceptedReply?]

theorem callIds_moved {call : Nat} {stage : CallStage} (h : (s.step e).calls = s.moved call stage) :
    (s.step e).callIds = s.callIds := by
  rw [callIds, h, moved, callIds]
  refine List.ext_getElem? ?_
  intro i
  simp only [List.getElem?_map, List.getElem?_modify]
  split <;> simp [Function.comp_def]

theorem arrivedIds_cons (e : Event) (rest : List Event) :
    (e :: rest).filterMap arrivedId? = (arrivedId? e).toList ++ rest.filterMap arrivedId? := by
  cases harrived : arrivedId? e <;> simp [harrived]

/-- Only a call that arrives brings an id. -/
theorem callIds_step (s : Sandbox) (e : Event) :
    (s.step e).callIds.Sublist (s.callIds ++ (arrivedId? e).toList) := by
  have hsame (h : (s.step e).callIds = s.callIds) :
      (s.step e).callIds.Sublist (s.callIds ++ (arrivedId? e).toList) :=
    h ▸ List.sublist_append_left _ _
  cases transition s e with
  | passes _ _ _ _ calls _ | replies _ _ _ _ _ _ _ _ calls _ =>
    exact hsame (by rw [callIds, calls, callIds])
  | turnedAway invocation event _ _ calls _ | reserves invocation event _ _ calls _ =>
    rw [callIds, calls, List.map_append, event]
    exact List.Sublist.refl _
  | acts _ _ _ _ _ _ calls _ _ => exact hsame (callIds_moved calls)

/-! ## The invariant -/

/-- What holds of a sandbox after some replies were taken in: the exchange has a true account of
    them, only calls registered, a call that did not register yet has an id that nobody registered
    under, and calls were served with what is in the account. -/
structure Accounted (s : Sandbox) (log : List (String × Bytes)) : Prop where
  ledger : s.traffic.Ledger log
  known : ∀ id, s.traffic.Registered id → id ∈ s.callIds
  early : ∀ (call : Nat) (c : Call), s.calls[call]? = some c →
    c.stage = .reserved ∨ c.stage = .admitted → ¬ s.traffic.Registered c.invocation.id
  served : ∀ (call : Nat) (c : Call) (draft : Draft), s.calls[call]? = some c →
    c.stage = .returned .served draft →
    ∃ body, draft = (Draft.blank.setStatus .ok).write body ∧ (c.invocation.id, body) ∈ log

theorem Accounted.fresh : fresh.Accounted [] where
  ledger := .fresh
  known id h := by
    obtain ⟨invocation, ticket, henrolled, _⟩ := h
    exact absurd henrolled.lt_length (by simp [Sandbox.fresh, Traffic.fresh])
  early call c h := by simp [Sandbox.fresh] at h
  served call c draft h := by simp [Sandbox.fresh] at h

/-- More traffic and more replies change nothing for calls, unless somebody registers. -/
theorem Accounted.of_calls {s' : Sandbox} {log' : List (String × Bytes)} (h : s.Accounted log)
    (ledger : s'.traffic.Ledger log') (calls : s'.calls = s.calls)
    (registered : ∀ id, s'.traffic.Registered id → s.traffic.Registered id) (grows : log ⊆ log') :
    s'.Accounted log' where
  ledger := ledger
  known id hid := by rw [callIds, calls]; exact h.known id (registered id hid)
  early call c hc hstage hid := h.early call c (calls ▸ hc) hstage (registered _ hid)
  served call c draft hc hstage := by
    obtain ⟨body, hdraft, hlog⟩ := h.served call c draft (calls ▸ hc) hstage
    exact ⟨body, hdraft, grows hlog⟩

/-- One more call under a new id changes nothing for the others. -/
theorem Accounted.of_arrival {s' : Sandbox} {last : Call} (h : s.Accounted log)
    (traffic : s'.traffic = s.traffic) (calls : s'.calls = s.calls ++ [last])
    (new : last.invocation.id ∉ s.callIds) (unserved : ∀ draft, last.stage ≠ .returned .served draft) :
    s'.Accounted log where
  ledger := traffic ▸ h.ledger
  known id hid := by
    rw [callIds, calls, List.map_append]
    exact List.mem_append_left _ (h.known id (traffic ▸ hid))
  early call c hc hstage hid := by
    rw [traffic] at hid
    rcases getElem?_append_call (calls ▸ hc) with hold | ⟨_, rfl⟩
    · exact h.early call c hold hstage hid
    · exact new (h.known _ hid)
  served call c draft hc hstage := by
    rcases getElem?_append_call (calls ▸ hc) with hold | ⟨_, rfl⟩
    · exact h.served call c draft hold hstage
    · exact absurd hstage (unserved draft)

/-! ## What a call does to the account -/

section Act

variable {call : Nat} {c : Call} {stage : CallStage} {t : Traffic}

theorem Act.silent (act : s.Act call c e stage t) : s.acceptedReply? e = none := by
  cases act <;> rfl

theorem Act.registered {id : String} (act : s.Act call c e stage t) (h : t.Registered id) :
    s.traffic.Registered id ∨ id = c.invocation.id := by
  cases act with
  | failsCheck | passesCheck | hears | hearsNothing | expires | drops => exact .inl h
  | isRefused now | enrolls now =>
    rcases h.of_step with hold | ⟨q, event, rfl⟩
    · exact .inl hold
    · cases event
      exact .inr rfl
  | forgets | withdraws =>
    rcases h.of_step with hold | ⟨q, event, _⟩
    · exact .inl hold
    · cases event

/-- A call that goes on without having registered has only passed its check. -/
theorem Act.early (act : s.Act call c e stage t) (h : stage = .reserved ∨ stage = .admitted) :
    c.stage = .reserved ∧ t = s.traffic := by
  cases act with
  | passesCheck hstage => exact ⟨hstage, rfl⟩
  | hears _ reply => cases reply <;> simp [answer] at h
  | failsCheck | isRefused | enrolls | hearsNothing | expires | forgets | withdraws | drops =>
    simp at h

theorem Accounted.act_ledger (h : s.Accounted log) (stands : s.calls[call]? = some c)
    (act : s.Act call c e stage t) : t.Ledger log := by
  cases act with
  | failsCheck | passesCheck | hearsNothing | expires | drops => exact h.ledger
  | hears ticket => exact h.ledger.collect ticket
  | isRefused now _ hstage | enrolls now hstage =>
    -- Nobody registered under this id before, so it was never served.
    refine h.ledger.pass rfl ?_
    rintro q ⟨⟩ hserved
    exact h.early call c stands (.inr hstage) (h.ledger.spent _ hserved).1
  | forgets | withdraws => exact h.ledger.pass rfl (by simp)

/-- A call is served with what was posted under the id of its invocation. -/
theorem Accounted.act_served (h : s.Accounted log) (orderly : s.Orderly)
    (stands : s.calls[call]? = some c) (act : s.Act call c e stage t) {draft : Draft}
    (hstage : stage = .returned .served draft) :
    ∃ body, draft = (Draft.blank.setStatus .ok).write body ∧ (c.invocation.id, body) ∈ log := by
  cases act with
  | hears ticket reply brought found =>
    have henrolled := (orderly.brought call c ticket stands brought).1
    have hmail : (ticket, reply) ∈ s.traffic.exchange.mail :=
      Traffic.mem_messages_iff.1 (List.mem_of_mem_head? (Traffic.inbox_eq_reply_iff.1 found))
    have hposted (body : Bytes) (hbody : reply.body? = some body) :
        (c.invocation.id, body) ∈ log := by
      obtain ⟨invocation, henrolled', hlog⟩ := h.ledger.posted ticket reply body hmail hbody
      rwa [henrolled.unique henrolled']
    cases reply with
    | response body | error body =>
      cases hstage
      exact ⟨body, rfl, hposted body rfl⟩
    | exited reason => cases hstage
  | failsCheck | passesCheck | isRefused | enrolls | hearsNothing | expires | forgets | withdraws
  | drops => cases hstage

end Act

/-! ## Whole runs -/

theorem Accounted.step (h : s.Accounted log) (orderly : s.Orderly) (e : Event)
    (new : ∀ invocation, e = .arrives invocation → invocation.id ∉ s.callIds) :
    (s.step e).Accounted (log ++ (s.acceptedReply? e).toList) := by
  cases transition s e with
  | passes events neutral silent traffic calls _ =>
    rw [silent, Option.toList_none, List.append_nil]
    exact h.of_calls (traffic ▸ h.ledger.run_neutral neutral) calls
      (fun id hid => Traffic.Registered.of_run_neutral (traffic ▸ hid) neutral)
      (List.Subset.refl _)
  | replies id bytes reply ticket accepted posted waits traffic calls _ =>
    rw [accepted]
    have hbody : reply.body? = some bytes := by rcases posted with rfl | rfl <;> rfl
    refine h.of_calls (traffic ▸ h.ledger.deliver orderly.sound hbody waits) calls ?_
      (List.subset_append_left _ _)
    intro id' hid'
    rw [traffic] at hid'
    rcases hid'.of_step with hold | ⟨q, event, _⟩
    · exact hold
    · cases event
  | turnedAway invocation event _ traffic calls _ =>
    subst event
    exact (List.append_nil log).symm ▸ h.of_arrival traffic calls (new invocation rfl) (by simp)
  | reserves invocation event _ traffic calls _ =>
    subst event
    exact (List.append_nil log).symm ▸ h.of_arrival traffic calls (new invocation rfl) (by simp)
  | acts call c stage stands unfinished act calls _ _ =>
    rw [act.silent, Option.toList_none, List.append_nil]
    refine ⟨h.act_ledger stands act, ?_, ?_, ?_⟩
    · intro id hid
      rw [callIds_moved calls]
      rcases act.registered hid with hold | rfl
      · exact h.known id hold
      · exact List.mem_map_of_mem (List.mem_of_getElem? stands)
    · intro other d hd hstage
      rcases getElem?_moved stands (calls ▸ hd) with ⟨_, rfl⟩ | ⟨hne, hold⟩
      · obtain ⟨reserved, traffic⟩ := act.early hstage
        rw [traffic]
        exact h.early call c stands (.inl reserved)
      · -- Of the calls that are not over, only the one that acts is there.
        have active : ¬ d.stage.IsOver := by
          rcases hstage with hstage | hstage <;> simp [hstage, CallStage.IsOver]
        exact absurd (orderly.unique hold stands active unfinished) hne
    · intro other d draft hd hstage
      rcases getElem?_moved stands (calls ▸ hd) with ⟨_, rfl⟩ | ⟨_, hold⟩
      · exact h.act_served orderly stands act hstage
      · exact h.served other d draft hold hstage

theorem Accounted.run (h : s.Accounted log) (orderly : s.Orderly) {events : List Event}
    (distinct : (s.callIds ++ events.filterMap arrivedId?).Nodup) :
    (s.run events).Accounted (log ++ s.acceptedReplies events) := by
  induction events generalizing s log with
  | nil => exact (List.append_nil log).symm ▸ h
  | cons e rest ih =>
    rw [arrivedIds_cons, ← List.append_assoc] at distinct
    have hnew (invocation : Invocation) (event : e = .arrives invocation) :
        invocation.id ∉ s.callIds := by
      subst event
      rw [List.append_assoc, List.nodup_append] at distinct
      intro known
      have arrives : invocation.id ∈ (arrivedId? (.arrives invocation)).toList
          ++ rest.filterMap arrivedId? := by simp [arrivedId?]
      exact distinct.2.2 _ known _ arrives rfl
    rw [acceptedReplies, ← List.append_assoc]
    exact ih (h.step orderly e hnew) (orderly.step e)
      (distinct.sublist ((callIds_step s e).append_right _))

end FunctionHost.Sandbox
