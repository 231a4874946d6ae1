-- SUMMARY: Invocations are handed out once each, in the order in which they joined the line.
import FunctionHost.Proofs.Exchange.Line
import FunctionHost.Proofs.Exchange.Queue

/-! # First come, first served

Over a run, who joined the line and what was handed out are recorded in order. What was handed out,
followed by what still stands in the line, is a selection of what joined it, in the same order:
withdrawals and exits only ever leave something out. Whatever was left out was discarded by one of
these while it stood in the line. -/

namespace FunctionHost.Traffic

open Exchange

/-! ## Records -/

/-- What is recorded over a run of events, given what is recorded of a single one. -/
def record {α : Type} (single : Traffic → Event → List α) (t : Traffic) : List Event → List α
  | [] => []
  | e :: rest => single t e ++ record single (t.step e) rest

/-- The invocations that join the line in a run, each with the ticket of its sender. -/
def joinings : Traffic → List Event → List (Ticket × Queued) :=
  record joining

/-- The invocations that are handed out in a run, each with the poller that takes it. -/
def handings : Traffic → List Event → List (Poller × Queued) :=
  record handing

/-- In a run of events, an invocation was discarded while it stood in the line. -/
def Discarded (t : Traffic) (events : List Event) (q : Queued) : Prop :=
  ∃ sooner e later, events = sooner ++ e :: later ∧ q ∈ (t.run sooner).exchange.queue ∧
    (t.run sooner).Discards q e

theorem Discarded.cons {t : Traffic} {e : Event} {events : List Event} {q : Queued}
    (h : (t.step e).Discarded events q) : t.Discarded (e :: events) q := by
  obtain ⟨sooner, e', later, rfl, hq, hdiscards⟩ := h
  exact ⟨e :: sooner, e', later, rfl, hq, hdiscards⟩

/-! ## The invariant -/

/-- What was recorded so far: what was handed out comes before what stands in the line, in the order
    of joining, and the records name just those who joined and those who were served. -/
structure Recorded (t : Traffic) (joined : List (Ticket × Queued))
    (handed : List (Poller × Queued)) : Prop where
  order : (handed.map Prod.snd ++ t.exchange.queue).Sublist (joined.map Prod.snd)
  joins : ∀ sender q, t.Joined sender q ↔ (sender, q) ∈ joined
  served : ∀ p q, t.Served p q ↔ (p, q) ∈ handed
  once : (joined.map Prod.fst).Nodup

theorem Recorded.fresh : fresh.Recorded [] [] where
  order := .slnil
  joins sender q := by simp [Traffic.fresh, Joined]
  served p q := by simp [Traffic.fresh, Served]
  once := .nil

variable {t : Traffic} {joined : List (Ticket × Queued)} {handed : List (Poller × Queued)}
  {e : Event} {events : List Event} {q : Queued}

theorem Recorded.order_step (h : t.Recorded joined handed) (e : Event) :
    ((handed ++ t.handing e).map Prod.snd ++ (t.step e).exchange.queue).Sublist
      ((joined ++ t.joining e).map Prod.snd) := by
  cases flow_step t e with
  | keeps joins hands queue => simpa [joins, hands, queue] using h.order
  | joins sender q _ _ joins hands queue =>
    simpa [joins, hands, queue] using h.order.append (.refl [q])
  | hands p q _ _ joins hands queue => simpa [joins, hands, queue] using h.order
  | withdraws id _ joins hands queue =>
    have kept := (List.filter_sublist (p := fun q => q.invocation.id ≠ id)
      (l := t.exchange.queue)).append_left (handed.map Prod.snd)
    simpa [joins, hands, queue] using kept.trans h.order
  | clears exit r _ _ _ joins hands queue =>
    simpa [joins, hands, queue] using (List.sublist_append_left _ _).trans h.order

theorem Recorded.once_step (h : t.Recorded joined handed) (e : Event) :
    ((joined ++ t.joining e).map Prod.fst).Nodup := by
  cases flow_step t e with
  | joins sender q _ stands joins _ _ =>
    -- A sender that is about to join has not joined yet.
    have hnew (q' : Queued) : (sender, q') ∉ joined := by
      rw [← h.joins, Joined]
      simp [stands]
    rw [joins, List.map_append, List.nodup_append]
    refine ⟨h.once, by simp, ?_⟩
    rintro i hi j hj rfl
    obtain ⟨⟨i, q'⟩, hmem, rfl⟩ := List.mem_map.1 hi
    obtain rfl : i = sender := by simpa using hj
    exact hnew q' hmem
  | keeps joins _ _ | hands _ _ _ _ joins _ _ | withdraws _ _ joins _ _
  | clears _ _ _ _ _ joins _ _ => simpa [joins] using h.once

theorem Recorded.step (h : t.Recorded joined handed) (e : Event) :
    (t.step e).Recorded (joined ++ t.joining e) (handed ++ t.handing e) where
  order := h.order_step e
  joins sender q := by rw [joined_step, h.joins, List.mem_append]
  served p q := by rw [served_step, h.served, List.mem_append]
  once := h.once_step e

theorem Recorded.run (h : t.Recorded joined handed) (events : List Event) :
    (t.run events).Recorded (joined ++ t.joinings events) (handed ++ t.handings events) := by
  induction events generalizing t joined handed with
  | nil => simpa [joinings, handings, record] using h
  | cons e rest ih => simpa [joinings, handings, record] using ih (h.step e)

/-! ## Whoever brought an invocation -/

theorem queued_run (t : Traffic) (events : List Event) :
    (t.run events).senders.map Sender.queued
      = t.senders.map Sender.queued ++ events.flatMap bringing := by
  induction events generalizing t with
  | nil => simp
  | cons e rest ih => rw [run_cons, ih, queued_step, List.flatMap_cons, List.append_assoc]

/-- Whoever joined the line did so with the invocation that they brought. -/
theorem brought_of_joined {sender : Ticket} (h : (fresh.run events).Joined sender q) :
    (events.flatMap bringing)[sender]? = some q := by
  have hqueued : ((fresh.run events).senders.map Sender.queued)[sender]? = some q := by
    rcases h with hs | hs <;> simp [hs]
  rwa [queued_run] at hqueued

/-- If all invocations have different ids, then so have those that joined the line. -/
theorem Recorded.nodup_ids (h : (Traffic.fresh.run events).Recorded joined handed)
    (distinct : ((events.flatMap bringing).map fun q => q.invocation.id).Nodup) :
    ((joined.map Prod.snd).map fun q => q.invocation.id).Nodup := by
  have hid {sender : Ticket} {q : Queued} (hmem : (sender, q) ∈ joined) :
      ((events.flatMap bringing).map fun q => q.invocation.id)[sender]? = some q.invocation.id := by
    simp [brought_of_joined ((h.joins sender q).2 hmem)]
  rw [List.map_map, List.Nodup, List.pairwise_map]
  refine (List.pairwise_map.1 h.once).imp_of_mem ?_
  rintro ⟨i, q⟩ ⟨j, q'⟩ hi hj hne heq
  have hsame : q.invocation.id = q'.invocation.id := heq
  refine hne ((List.getElem?_inj ?_ distinct).1 ((hid hi).trans ?_))
  · exact (List.getElem?_eq_some_iff.1 (hid hi)).1
  · rw [hid hj, hsame]

/-! ## What becomes of an invocation in the line -/

/-- What stands in the line or joins it is handed out, or stands there still, or was discarded. -/
theorem accounted_run
    (h : q ∈ t.exchange.queue ∨ q ∈ (t.joinings events).map Prod.snd) :
    q ∈ (t.handings events).map Prod.snd ∨ q ∈ (t.run events).exchange.queue ∨
      t.Discarded events q := by
  induction events generalizing t with
  | nil =>
    rcases h with h | h
    · exact .inr (.inl h)
    · simp [joinings, record] at h
  | cons e rest ih =>
    have hlater (h : q ∈ (t.step e).exchange.queue ∨
        q ∈ ((t.step e).joinings rest).map Prod.snd) :
        q ∈ (t.handings (e :: rest)).map Prod.snd ∨ q ∈ (t.run (e :: rest)).exchange.queue ∨
          t.Discarded (e :: rest) q := by
      rcases ih h with handed | stands | discarded
      · exact .inl (by rw [handings, record, List.map_append]; exact List.mem_append_right _ handed)
      · exact .inr (.inl stands)
      · exact .inr (.inr discarded.cons)
    rcases h with stands | joins
    · rcases mem_queue_step stands e with stays | handed | discards
      · exact hlater (.inl stays)
      · exact .inl (by rw [handings, record, List.map_append]; exact List.mem_append_left _ handed)
      · exact .inr (.inr ⟨[], e, rest, rfl, stands, discards⟩)
    · rw [joinings, record, List.map_append] at joins
      rcases List.mem_append.1 joins with joins | joins
      · exact hlater (.inl (mem_queue_of_joining joins))
      · exact hlater (.inr joins)

/-! ## The main result -/

/-- If all invocations that are brought have different ids, then those that are handed out are a
    selection of those that joined the line, in the order in which they joined it and each as it was
    brought. None is handed out twice, or stands in the line still; and one that joined the line and
    was not handed out stands in it still, or was discarded while it stood there. -/
theorem handed_in_order (events : List Event)
    (distinct : ((events.flatMap bringing).map fun q => q.invocation.id).Nodup) :
    (∀ p q, (fresh.run events).Served p q ↔ (p, q) ∈ fresh.handings events) ∧
    (∀ sender q, (fresh.run events).Joined sender q ↔ (sender, q) ∈ fresh.joinings events) ∧
    (∀ sender q, (sender, q) ∈ fresh.joinings events →
      (events.flatMap bringing)[sender]? = some q) ∧
    ((fresh.handings events).map Prod.snd ++ (fresh.run events).exchange.queue).Sublist
      ((fresh.joinings events).map Prod.snd) ∧
    (((fresh.handings events).map Prod.snd ++ (fresh.run events).exchange.queue).map
      fun q => q.invocation.id).Nodup ∧
    ∀ q ∈ (fresh.joinings events).map Prod.snd,
      q ∈ (fresh.handings events).map Prod.snd ∨ q ∈ (fresh.run events).exchange.queue ∨
        fresh.Discarded events q := by
  have recorded : (fresh.run events).Recorded (fresh.joinings events) (fresh.handings events) := by
    simpa using Recorded.fresh.run events
  refine ⟨recorded.served, recorded.joins, ?_, recorded.order, ?_, ?_⟩
  · intro sender q hmem
    exact brought_of_joined ((recorded.joins sender q).2 hmem)
  · exact (recorded.nodup_ids distinct).sublist (recorded.order.map _)
  · intro q joins
    exact accounted_run (.inr joins)

/-- Of four invocations that join the line, the first is withdrawn, two are fetched, and the last is
    cleared away after the function exited. -/
def selected : List Event :=
  [ .brings (bareQueued "a"), .brings (bareQueued "b"), .brings (bareQueued "c"),
    .brings (bareQueued "d"), .queues 1, .queues 0, .queues 2, .queues 3, .asks, .asks,
    .withdraws "b", .looks 1, .looks 0, .exits "exit status 1" [], .reports 0, .reports 0,
    .reports 0 ]

theorem handed_in_order_selected :
    ((selected.flatMap bringing).map fun q => q.invocation.id).Nodup ∧
    fresh.handings selected = [(1, bareQueued "a"), (0, bareQueued "c")] ∧
    [bareQueued "a", bareQueued "c"].Sublist ((fresh.joinings selected).map Prod.snd) ∧
    fresh.Discarded selected (bareQueued "b") ∧ fresh.Discarded selected (bareQueued "d") := by
  have distinct : ((selected.flatMap bringing).map fun q => q.invocation.id).Nodup := by
    decide +kernel
  obtain ⟨-, -, -, order, -, accounted⟩ := handed_in_order selected distinct
  have discarded (q : Queued) (joined : q ∈ (fresh.joinings selected).map Prod.snd)
      (unhanded : q ∉ (fresh.handings selected).map Prod.snd)
      (left : q ∉ (fresh.run selected).exchange.queue) : fresh.Discarded selected q :=
    ((accounted q joined).resolve_left unhanded).resolve_left left
  refine ⟨distinct, by decide +kernel, ?_, ?_, ?_⟩
  · exact (List.sublist_append_left _ _).trans order
  · exact discarded (bareQueued "b") (by decide +kernel) (by decide +kernel) (by decide +kernel)
  · exact discarded (bareQueued "d") (by decide +kernel) (by decide +kernel) (by decide +kernel)

end FunctionHost.Traffic
