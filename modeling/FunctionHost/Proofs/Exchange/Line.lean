-- SUMMARY: The queue over any traffic: who joins it, who is handed its first, and what is discarded.
import FunctionHost.Proofs.Exchange.Waiting

/-! # The line of invocations

A sender joins the line at its end, and whoever looks is handed the first in it. Apart from that the
line only changes where somebody withdraws an invocation, or where the report of an exit clears it.
`flow_step` says once what an event does to the line. What joined and what was handed out is recorded
over a run, and compared with what stands in the line at its end. -/

namespace FunctionHost.Traffic

open Exchange

/-! ## Joining the line, and being handed its first -/

/-- The invocation that an event brings. -/
def bringing : Event → List Queued
  | .brings q => [q]
  | _ => []

/-- The invocation that joins the line in an event, with the ticket of its sender. -/
def joining (t : Traffic) : Event → List (Ticket × Queued)
  | .queues sender =>
    match t.senders[sender]? with
    | some ⟨q, .enrolled⟩ => [(sender, q)]
    | _ => []
  | _ => []

/-- The sender that rings in an event. -/
def ringing (t : Traffic) : Event → List Ticket
  | .rings sender =>
    match t.senders[sender]? with
    | some ⟨_, .queued⟩ => [sender]
    | _ => []
  | _ => []

/-- The poller is about to look: it has come just now, or it was woken. -/
def Looks (t : Traffic) (p : Poller) : Prop :=
  t.pollers[p]? = some .looking ∨
    t.pollers[p]? = some .resting ∧ p ∈ t.exchange.bell.woken

instance (t : Traffic) (p : Poller) : Decidable (t.Looks p) :=
  inferInstanceAs (Decidable (_ ∨ _ ∧ _))

/-- The invocation that is handed out in an event, with the poller that takes it. -/
def handing (t : Traffic) : Event → List (Poller × Queued)
  | .looks p => if t.Looks p then t.exchange.queue.head?.toList.map fun q => (p, q) else []
  | _ => []

/-- The sender has joined the line with an invocation. -/
def Joined (t : Traffic) (sender : Ticket) (q : Queued) : Prop :=
  t.senders[sender]? = some ⟨q, .queued⟩ ∨ t.senders[sender]? = some ⟨q, .rung⟩

/-- The poller was handed an invocation. -/
def Served (t : Traffic) (p : Poller) (q : Queued) : Prop :=
  t.pollers[p]? = some (.served q)

instance (t : Traffic) (p : Poller) (q : Queued) : Decidable (t.Served p q) :=
  inferInstanceAs (Decidable (_ = _))

/-- An event discards an invocation that stands in the line. -/
inductive Discards (t : Traffic) (q : Queued) : Event → Prop where
  | withdrawn : t.Discards q (.withdraws q.invocation.id)
  | cleared (exit : Nat) (r : ExitReport) (reported : t.exits[exit]? = some r)
      (stage : r.stage = .drained) : t.Discards q (.reports exit)

/-! ## Looking -/

variable {t : Traffic} {e : Event} {p : Poller} {q : Queued}

/-- The bell once a poller looks: one who was woken is no longer waited for. -/
def bellSeen (t : Traffic) (p : Poller) : Doorbell :=
  if t.pollers[p]? = some .resting then t.exchange.bell.look p else t.exchange.bell

/-- Whoever looks at an empty queue turns to the bell. -/
theorem step_looks_of_nil (h : t.Looks p) (empty : t.exchange.queue = []) :
    t.step (.looks p) =
      { t with
        exchange := { t.exchange with bell := t.bellSeen p }
        pollers := t.pollers.set p .turning } := by
  have hlook (t : Traffic) (empty : t.exchange.queue = []) :
      t.look p = t.movePoller p .turning := by
    simp [look, pop?, empty]
  rcases h with hp | ⟨hp, hwoken⟩
  · simp [step, hp, hlook t empty, movePoller, bellSeen]
  · simp only [step, hp, List.contains_eq_mem, hwoken, decide_true, if_true, bellSeen]
    exact hlook _ empty

/-- Whoever looks takes the first of the queue. -/
theorem step_looks_of_cons {rest : List Queued} (h : t.Looks p)
    (stands : t.exchange.queue = q :: rest) :
    t.step (.looks p) =
      { t with
        exchange := { t.exchange with queue := rest, bell := t.bellSeen p }
        pollers := t.pollers.set p (.served q) } := by
  rcases h with hp | ⟨hp, hwoken⟩
  · simp [step, hp, look, pop?, stands, movePoller, bellSeen]
  · simp [step, hp, hwoken, look, pop?, stands, movePoller, bellSeen]

/-- Who is not about to look does not. -/
theorem step_looks_of_not (h : ¬ t.Looks p) : t.step (.looks p) = t := by
  simp only [step]
  split
  · next hp => exact absurd (.inl hp) h
  · next hp =>
    have hwoken : ¬ p ∈ t.exchange.bell.woken := fun hwoken => h (.inr ⟨hp, hwoken⟩)
    simp [hwoken]
  · rfl

/-! ## Queueing and ringing -/

theorem modify_stage {senders : List Sender} {sender : Ticket} {stage : Sending} {q : Queued}
    (stands : senders[sender]? = some ⟨q, stage⟩) (next : Sending) :
    (senders.modify sender fun s => { s with stage := next }) = senders.set sender ⟨q, next⟩ := by
  refine List.ext_getElem? fun i => ?_
  rw [List.getElem?_modify, List.getElem?_set]
  by_cases hi : sender = i
  · subst hi
    simp only [stands, (List.getElem?_eq_some_iff.1 stands).1, if_true, Option.map_eq_map,
      Option.map_some]
  · simp [hi]

theorem step_queues_of_enrolled {sender : Ticket}
    (stands : t.senders[sender]? = some ⟨q, .enrolled⟩) :
    t.step (.queues sender) =
      { t with
        exchange := t.exchange.push q
        senders := t.senders.set sender ⟨q, .queued⟩ } := by
  simp [step, stands, moveSender, modify_stage stands]

/-- Who has not just registered does not queue. -/
theorem step_queues_of_not {sender : Ticket}
    (other : ¬ ∃ q, t.senders[sender]? = some ⟨q, .enrolled⟩) :
    t.joining (.queues sender) = [] ∧ t.step (.queues sender) = t := by
  refine ⟨?_, ?_⟩
  · simp only [joining]
    split
    · next q stands => exact absurd ⟨q, stands⟩ other
    · rfl
  · simp only [step]
    split
    · next q stands => exact absurd ⟨q, stands⟩ other
    · rfl

theorem step_rings_of_queued {sender : Ticket} (stands : t.senders[sender]? = some ⟨q, .queued⟩) :
    t.step (.rings sender) =
      { t with
        exchange := t.exchange.ring
        senders := t.senders.set sender ⟨q, .rung⟩ } := by
  simp [step, stands, moveSender, modify_stage stands]

/-- Who has not just queued an invocation does not ring. -/
theorem step_rings_of_not {sender : Ticket}
    (other : ¬ ∃ q, t.senders[sender]? = some ⟨q, .queued⟩) :
    t.ringing (.rings sender) = [] ∧ t.step (.rings sender) = t := by
  refine ⟨?_, ?_⟩
  · simp only [ringing]
    split
    · next q stands => exact absurd ⟨q, stands⟩ other
    · rfl
  · simp only [step]
    split
    · next q stands => exact absurd ⟨q, stands⟩ other
    · rfl

/-! ## What an event does to the line -/

/-- How an event changes the line: somebody joins at its end, its first is handed out, an id is
    withdrawn, or all of it is cleared. -/
inductive Flow (t : Traffic) (e : Event) : Prop where
  | keeps (joins : t.joining e = []) (hands : t.handing e = [])
      (queue : (t.step e).exchange.queue = t.exchange.queue)
  | joins (sender : Ticket) (q : Queued) (event : e = .queues sender)
      (stands : t.senders[sender]? = some ⟨q, .enrolled⟩)
      (joins : t.joining e = [(sender, q)]) (hands : t.handing e = [])
      (queue : (t.step e).exchange.queue = t.exchange.queue ++ [q])
  | hands (p : Poller) (q : Queued) (event : e = .looks p) (looks : t.Looks p)
      (joins : t.joining e = []) (hands : t.handing e = [(p, q)])
      (queue : t.exchange.queue = q :: (t.step e).exchange.queue)
  | withdraws (id : String) (event : e = .withdraws id)
      (joins : t.joining e = []) (hands : t.handing e = [])
      (queue : (t.step e).exchange.queue = t.exchange.queue.filter (·.invocation.id ≠ id))
  | clears (exit : Nat) (r : ExitReport) (event : e = .reports exit)
      (reported : t.exits[exit]? = some r) (stage : r.stage = .drained)
      (joins : t.joining e = []) (hands : t.handing e = [])
      (queue : (t.step e).exchange.queue = [])

theorem flow_step (t : Traffic) (e : Event) : t.Flow e := by
  cases e with
  | brings q =>
    cases hexit : t.exchange.exitReason with
    | none => exact .keeps rfl rfl (by rw [step_brings_of_running q hexit])
    | some reason => exact .keeps rfl rfl (by rw [step_brings_of_exited q hexit])
  | queues sender =>
    by_cases hstands : ∃ q, t.senders[sender]? = some ⟨q, .enrolled⟩
    · obtain ⟨q, hq⟩ := hstands
      exact .joins sender q rfl hq (by simp [joining, hq]) rfl
        (by rw [step_queues_of_enrolled hq]; rfl)
    · obtain ⟨joins, hstep⟩ := step_queues_of_not hstands
      exact .keeps joins rfl (by rw [hstep])
  | looks p =>
    by_cases hlooks : t.Looks p
    · cases hqueue : t.exchange.queue with
      | nil =>
        exact .keeps rfl (by simp [handing, hqueue]) (by rw [step_looks_of_nil hlooks hqueue])
      | cons q rest =>
        exact .hands p q rfl hlooks rfl (by simp [handing, hlooks, hqueue])
          (by rw [step_looks_of_cons hlooks hqueue, hqueue])
    · exact .keeps rfl (by simp [handing, hlooks]) (by rw [step_looks_of_not hlooks])
  | withdraws id => exact .withdraws id rfl rfl rfl rfl
  | reports exit =>
    cases hr : t.exits[exit]? with
    | none => exact .keeps rfl rfl (by simp [step, hr])
    | some r =>
      cases hstage : r.stage with
      | drained =>
        exact .clears exit r rfl hr hstage rfl rfl (by simp [step, hr, report, hstage, clear])
      | recorded =>
        refine .keeps rfl rfl ?_
        simp only [step, hr, report, hstage, failStart]
        split <;> rfl
      | failed | cleared =>
        exact .keeps rfl rfl (by simp [step, hr, report, hstage, drain])
  | replies id reply =>
    cases hwaits : t.exchange.waiting.get? id with
    | none => exact .keeps rfl rfl (by rw [step_replies_of_none reply hwaits])
    | some ticket => exact .keeps rfl rfl (by rw [step_replies_of_waits reply hwaits])
  | rings | sleeps | leaves => refine .keeps rfl rfl ?_; simp only [step]; split <;> rfl
  | marksReady => refine .keeps rfl rfl ?_; simp only [step, markReady]; split <;> rfl
  | failsStart => refine .keeps rfl rfl ?_; simp only [step, failStart]; split <;> rfl
  | asks | forgets | exits => exact .keeps rfl rfl rfl

/-- What stands in the line stays there, unless it is handed out or discarded. -/
theorem mem_queue_step (h : q ∈ t.exchange.queue) (e : Event) :
    q ∈ (t.step e).exchange.queue ∨ q ∈ (t.handing e).map Prod.snd ∨ t.Discards q e := by
  cases flow_step t e with
  | keeps _ _ queue => exact .inl (queue ▸ h)
  | joins sender q' _ _ _ _ queue => exact .inl (by rw [queue]; exact List.mem_append_left _ h)
  | hands p q' _ _ _ hands queue =>
    rw [queue] at h
    rcases List.mem_cons.1 h with rfl | h
    · exact .inr (.inl (by simp [hands]))
    · exact .inl h
  | withdraws id event _ _ queue =>
    by_cases hid : q.invocation.id = id
    · exact .inr (.inr (by rw [event, ← hid]; exact .withdrawn))
    · exact .inl (by rw [queue]; exact List.mem_filter.2 ⟨h, by simpa using hid⟩)
  | clears exit r event reported stage _ _ _ =>
    exact .inr (.inr (by rw [event]; exact .cleared exit r reported stage))

/-- What joins the line stands in it. -/
theorem mem_queue_of_joining (h : q ∈ (t.joining e).map Prod.snd) :
    q ∈ (t.step e).exchange.queue := by
  cases flow_step t e with
  | joins sender q' _ _ joins _ queue =>
    obtain rfl : q = q' := by simpa [joins] using h
    simp [queue]
  | keeps joins _ _ | hands _ _ _ _ joins _ _ | withdraws _ _ joins _ _
  | clears _ _ _ _ _ joins _ _ => simp [joins] at h

/-! ## Senders and pollers -/

/-- How an event changes the senders: one more comes, or one of them queues its invocation, or one of
    them rings. -/
inductive Advance (t : Traffic) (e : Event) : Prop where
  | stays (brings : bringing e = []) (joins : t.joining e = []) (silent : t.ringing e = [])
      (senders : (t.step e).senders = t.senders)
  | comes (q : Queued) (stage : Sending) (event : e = .brings q)
      (stage_ne : stage ≠ .queued ∧ stage ≠ .rung)
      (senders : (t.step e).senders = t.senders ++ [⟨q, stage⟩])
  | queues (sender : Ticket) (q : Queued) (event : e = .queues sender)
      (stands : t.senders[sender]? = some ⟨q, .enrolled⟩)
      (senders : (t.step e).senders = t.senders.set sender ⟨q, .queued⟩)
  | rings (sender : Ticket) (q : Queued) (event : e = .rings sender)
      (stands : t.senders[sender]? = some ⟨q, .queued⟩)
      (senders : (t.step e).senders = t.senders.set sender ⟨q, .rung⟩)

theorem set_eq_self {α : Type} {l : List α} {i : Nat} {a : α} (h : l[i]? = some a) :
    l.set i a = l := by
  obtain ⟨hlt, rfl⟩ := List.getElem?_eq_some_iff.1 h
  exact List.set_getElem_self hlt

theorem getElem?_set_eq_some {α : Type} {l : List α} {i j : Nat} {a b c : α} (h : l[i]? = some a) :
    (l.set i b)[j]? = some c ↔ i = j ∧ b = c ∨ i ≠ j ∧ l[j]? = some c := by
  by_cases hij : i = j
  · subst hij
    simp [(List.getElem?_eq_some_iff.1 h).1]
  · simp [List.getElem?_set_ne hij, hij]

theorem getElem?_concat_eq_some {α : Type} {l : List α} {i : Nat} {a c : α} :
    (l ++ [a])[i]? = some c ↔ l[i]? = some c ∨ i = l.length ∧ a = c := by
  rcases Nat.lt_trichotomy i l.length with hlt | rfl | hlt
  · simp [List.getElem?_append_left hlt, Nat.ne_of_lt hlt]
  · simp
  · have hnone : l[i]? = none := List.getElem?_eq_none (Nat.le_of_lt hlt)
    rw [List.getElem?_eq_none (by simpa using Nat.succ_le_of_lt hlt), hnone]
    simp [Nat.ne_of_gt hlt]

theorem advance_step (t : Traffic) (e : Event) : t.Advance e := by
  cases e with
  | brings q =>
    cases hexit : t.exchange.exitReason with
    | none => exact .comes q .enrolled rfl (by simp) (by rw [step_brings_of_running q hexit])
    | some reason =>
      exact .comes q (.refused reason) rfl (by simp) (by rw [step_brings_of_exited q hexit])
  | queues sender =>
    by_cases hstands : ∃ q, t.senders[sender]? = some ⟨q, .enrolled⟩
    · obtain ⟨q, hq⟩ := hstands
      exact .queues sender q rfl hq (by rw [step_queues_of_enrolled hq])
    · obtain ⟨joins, hstep⟩ := step_queues_of_not hstands
      exact .stays rfl joins rfl (by rw [hstep])
  | rings sender =>
    by_cases hstands : ∃ q, t.senders[sender]? = some ⟨q, .queued⟩
    · obtain ⟨q, hq⟩ := hstands
      exact .rings sender q rfl hq (by rw [step_rings_of_queued hq])
    · obtain ⟨silent, hstep⟩ := step_rings_of_not hstands
      exact .stays rfl rfl silent (by rw [hstep])
  | looks p =>
    obtain ⟨_, _, _, senders, _⟩ := looks_step t p
    exact .stays rfl rfl rfl senders
  | sleeps | leaves | replies | reports => refine .stays rfl rfl rfl ?_; simp only [step]; split <;> rfl
  | asks | forgets | withdraws | marksReady | failsStart | exits => exact .stays rfl rfl rfl rfl

/-- The senders are those who brought an invocation, in order of coming. -/
theorem queued_step (t : Traffic) (e : Event) :
    (t.step e).senders.map Sender.queued = t.senders.map Sender.queued ++ bringing e := by
  have hset {sender : Ticket} {q : Queued} {stage : Sending}
      (stands : t.senders[sender]? = some ⟨q, stage⟩) (next : Sending) :
      (t.senders.set sender ⟨q, next⟩).map Sender.queued = t.senders.map Sender.queued := by
    rw [List.map_set]
    exact set_eq_self (by simp [stands])
  cases advance_step t e with
  | stays brings _ _ senders => rw [senders, brings, List.append_nil]
  | comes q stage event _ senders => rw [senders, event, List.map_append]; rfl
  | queues sender q event stands senders | rings sender q event stands senders =>
    rw [senders, hset stands, event]
    simp [bringing]

/-- A sender joins the line once, and has joined it for ever. -/
theorem joined_step (t : Traffic) (e : Event) (sender : Ticket) (q : Queued) :
    (t.step e).Joined sender q ↔ t.Joined sender q ∨ (sender, q) ∈ t.joining e := by
  cases advance_step t e with
  | stays _ joins _ senders => simp [Joined, senders, joins]
  | comes q' stage event stage_ne senders =>
    have hnone : t.joining e = [] := by rw [event]; rfl
    rw [Joined, Joined, senders, getElem?_concat_eq_some, getElem?_concat_eq_some, hnone]
    simp [stage_ne]
  | queues sender' q' event stands senders =>
    have hjoins : t.joining e = [(sender', q')] := by simp [event, joining, stands]
    rw [Joined, Joined, senders, getElem?_set_eq_some stands, getElem?_set_eq_some stands, hjoins]
    by_cases hs : sender' = sender
    · subst hs
      simp [stands, eq_comm]
    · simp [hs, Ne.symm hs]
  | rings sender' q' event stands senders =>
    have hnone : t.joining e = [] := by rw [event]; rfl
    rw [Joined, Joined, senders, getElem?_set_eq_some stands, getElem?_set_eq_some stands, hnone]
    by_cases hs : sender' = sender
    · subst hs
      simp [stands]
    · simp [hs]

/-! ## The bell -/

theorem step_sleeps_of_turning (stands : t.pollers[p]? = some .turning) :
    t.step (.sleeps p) =
      { t with
        exchange := t.exchange.sleep p
        pollers := t.pollers.set p .resting } := by
  simp [step, stands, movePoller]

theorem step_leaves_of_resting (stands : t.pollers[p]? = some .resting) :
    t.step (.leaves p) =
      { t with
        exchange := { t.exchange with bell := t.exchange.bell.leave p }
        pollers := t.pollers.set p .gone } := by
  simp [step, stands, movePoller]

/-- How an event changes the pollers and the bell. -/
inductive Visit (t : Traffic) (e : Event) : Prop where
  | stays (hands : t.handing e = []) (silent : t.ringing e = [])
      (pollers : (t.step e).pollers = t.pollers)
      (bell : (t.step e).exchange.bell = t.exchange.bell)
  | rings (sender : Ticket) (q : Queued) (event : e = .rings sender)
      (stands : t.senders[sender]? = some ⟨q, .queued⟩)
      (pollers : (t.step e).pollers = t.pollers)
      (bell : (t.step e).exchange.bell = t.exchange.bell.ring)
  | asks (event : e = .asks) (pollers : (t.step e).pollers = t.pollers ++ [.looking])
      (bell : (t.step e).exchange.bell = t.exchange.bell)
  | turns (p : Poller) (event : e = .looks p) (looks : t.Looks p)
      (empty : t.exchange.queue = []) (hands : t.handing e = [])
      (pollers : (t.step e).pollers = t.pollers.set p .turning)
      (bell : (t.step e).exchange.bell = t.bellSeen p)
  | takes (p : Poller) (q : Queued) (event : e = .looks p) (looks : t.Looks p)
      (hands : t.handing e = [(p, q)])
      (pollers : (t.step e).pollers = t.pollers.set p (.served q))
      (bell : (t.step e).exchange.bell = t.bellSeen p)
  | sleeps (p : Poller) (event : e = .sleeps p) (stands : t.pollers[p]? = some .turning)
      (pollers : (t.step e).pollers = t.pollers.set p .resting)
      (bell : (t.step e).exchange.bell = t.exchange.bell.sleep p)
  | leaves (p : Poller) (event : e = .leaves p) (stage : Asking)
      (stands : t.pollers[p]? = some stage) (unserved : ∀ q, stage ≠ .served q)
      (pollers : (t.step e).pollers = t.pollers.set p .gone)
      (bell : (t.step e).exchange.bell =
        if stage = .resting then t.exchange.bell.leave p else t.exchange.bell)

theorem visit_step (t : Traffic) (e : Event) : t.Visit e := by
  cases e with
  | asks => exact .asks rfl rfl rfl
  | rings sender =>
    by_cases hstands : ∃ q, t.senders[sender]? = some ⟨q, .queued⟩
    · obtain ⟨q, hq⟩ := hstands
      have hstep := step_rings_of_queued hq
      exact .rings sender q rfl hq (by rw [hstep]) (by rw [hstep]; rfl)
    · obtain ⟨silent, hstep⟩ := step_rings_of_not hstands
      exact .stays rfl silent (by rw [hstep]) (by rw [hstep])
  | looks p =>
    by_cases hlooks : t.Looks p
    · cases hqueue : t.exchange.queue with
      | nil =>
        have hstep := step_looks_of_nil hlooks hqueue
        exact .turns p rfl hlooks hqueue (by simp [handing, hqueue]) (by rw [hstep]) (by rw [hstep])
      | cons q rest =>
        have hstep := step_looks_of_cons hlooks hqueue
        exact .takes p q rfl hlooks (by simp [handing, hlooks, hqueue]) (by rw [hstep])
          (by rw [hstep])
    · have hstep := step_looks_of_not hlooks
      exact .stays (by simp [handing, hlooks]) rfl (by rw [hstep]) (by rw [hstep])
  | sleeps p =>
    by_cases hstands : t.pollers[p]? = some .turning
    · have hstep := step_sleeps_of_turning hstands
      exact .sleeps p rfl hstands (by rw [hstep]) (by rw [hstep]; rfl)
    · have hstep : t.step (.sleeps p) = t := by simp only [step]
      exact .stays rfl rfl (by rw [hstep]) (by rw [hstep])
  | leaves p =>
    cases hstands : t.pollers[p]? with
    | none => exact .stays rfl rfl (by simp [step, hstands]) (by simp [step, hstands])
    | some stage =>
      cases stage with
      | looking | turning | resting =>
        exact .leaves p rfl _ hstands (by simp) (by simp [step, hstands, movePoller])
          (by simp [step, hstands, movePoller])
      | served | gone => exact .stays rfl rfl (by simp [step, hstands]) (by simp [step, hstands])
  | brings q =>
    cases hexit : t.exchange.exitReason with
    | none =>
      have hstep := step_brings_of_running q hexit
      exact .stays rfl rfl (by rw [hstep]) (by rw [hstep])
    | some reason =>
      have hstep := step_brings_of_exited q hexit
      exact .stays rfl rfl (by rw [hstep]) (by rw [hstep])
  | replies id reply =>
    cases hwaits : t.exchange.waiting.get? id with
    | none =>
      have hstep := step_replies_of_none reply hwaits
      exact .stays rfl rfl (by rw [hstep]) (by rw [hstep])
    | some ticket =>
      have hstep := step_replies_of_waits reply hwaits
      exact .stays rfl rfl (by rw [hstep]) (by rw [hstep])
  | reports exit =>
    cases hr : t.exits[exit]? with
    | none => exact .stays rfl rfl (by simp [step, hr]) (by simp [step, hr])
    | some r =>
      refine .stays rfl rfl (by simp [step, hr, report]) ?_
      cases hstage : r.stage with
      | recorded => simp only [step, hr, report, hstage, failStart]; split <;> rfl
      | failed | drained | cleared => simp [step, hr, report, hstage, drain, clear]
  | queues => refine .stays rfl rfl ?_ ?_ <;> simp only [step] <;> split <;> rfl
  | marksReady => exact .stays rfl rfl rfl (by simp only [step, markReady]; split <;> rfl)
  | failsStart => exact .stays rfl rfl rfl (by simp only [step, failStart]; split <;> rfl)
  | forgets | withdraws | exits => exact .stays rfl rfl rfl rfl

/-- A poller that was handed an invocation has it for ever. -/
theorem served_step (t : Traffic) (e : Event) (p : Poller) (q : Queued) :
    (t.step e).Served p q ↔ t.Served p q ∨ (p, q) ∈ t.handing e := by
  have hmoves {p' : Poller} {stage next : Asking} (stands : t.pollers[p']? = some stage)
      (unserved : ∀ q, stage ≠ .served q) (pollers : (t.step e).pollers = t.pollers.set p' next) :
      (t.step e).Served p q ↔ t.Served p q ∨ p' = p ∧ next = .served q := by
    rw [Served, Served, pollers, getElem?_set_eq_some stands]
    by_cases hp : p' = p
    · subst hp
      simp [stands, unserved q]
    · simp [hp]
  have hunserved {p' : Poller} (looks : t.Looks p') :
      ∃ stage, t.pollers[p']? = some stage ∧ ∀ q, stage ≠ .served q := by
    rcases looks with hp | ⟨hp, _⟩ <;> exact ⟨_, hp, by simp⟩
  cases visit_step t e with
  | stays hands _ pollers _ => simp [Served, pollers, hands]
  | rings sender q' event _ pollers _ =>
    rw [Served, pollers, event]
    simp [Served, handing]
  | asks event pollers _ =>
    rw [Served, pollers, getElem?_concat_eq_some]
    simp [Served, event, handing]
  | turns p' _ looks _ hands pollers _ =>
    obtain ⟨stage, stands, unserved⟩ := hunserved looks
    rw [hmoves stands unserved pollers, hands]
    simp
  | takes p' q' _ looks hands pollers _ =>
    obtain ⟨stage, stands, unserved⟩ := hunserved looks
    rw [hmoves stands unserved pollers, hands]
    simp [eq_comm]
  | sleeps p' event stands pollers _ =>
    rw [hmoves stands (by simp) pollers]
    simp [event, handing]
  | leaves p' event stage stands unserved pollers _ =>
    rw [hmoves stands unserved pollers]
    simp [event, handing]

end FunctionHost.Traffic
