-- SUMMARY: What becomes of a ticket that registered for a reply, over any traffic.
import FunctionHost.Proofs.Exchange.Exit

/-! # The fate of a ticket

A ticket that registered waits, until it is answered, until an exit is told to it, until its
holder gives up, or until somebody else registers under the same id. In the first two of these it
is sent one message, and after any of them nothing further reaches it. -/

namespace FunctionHost.Traffic

open Exchange

/-! ## Tickets that wait no longer -/

/-- A ticket was handed out, and does not wait any more. -/
def Gone (t : Traffic) (i : Ticket) : Prop :=
  i < t.senders.length ∧ ∀ id, t.exchange.waiting.get? id ≠ some i

theorem Gone.step {t : Traffic} {i : Ticket} (h : t.Gone i) (e : Event) :
    (t.step e).Gone i ∧ (t.step e).messages i = t.messages i := by
  obtain ⟨hlt, hnone⟩ := h
  have hlt' := Nat.lt_of_lt_of_le hlt (length_senders_step t e)
  cases shift_step t e with
  | keeps waiting mail =>
    exact ⟨⟨hlt', by rw [waiting]; exact hnone⟩, by rw [messages, mail, messages]⟩
  | registers q _ _ waiting mail =>
    refine ⟨⟨hlt', ?_⟩, by rw [messages, mail, messages]⟩
    intro id
    rw [waiting, Dictionary.get?_insert]
    split
    · intro heq
      exact absurd hlt (by simp [← Option.some.inj heq])
    · exact hnone id
  | answers id reply ticket _ waits waiting mail =>
    have hne : ticket ≠ i := fun heq => hnone id (heq ▸ waits)
    refine ⟨⟨hlt', ?_⟩, by simp [messages, mail, hne]⟩
    intro other hother
    rw [waiting] at hother
    exact hnone other (Dictionary.get?_of_get?_erase hother).2
  | givesUp id _ waiting mail =>
    refine ⟨⟨hlt', ?_⟩, by rw [messages, mail, messages]⟩
    intro other hother
    rw [waiting] at hother
    exact hnone other (Dictionary.get?_of_get?_erase hother).2
  | tells exit r _ _ waiting mail =>
    refine ⟨⟨hlt', fun id => by simp [waiting]⟩, ?_⟩
    have hnobody : (t.exchange.waiting.entries.filter fun entry => entry.2 = i) = [] := by
      simp only [List.filter_eq_nil_iff, decide_eq_true_eq]
      rintro ⟨id, j⟩ hmem rfl
      exact hnone id (Dictionary.mem_entries_iff.1 hmem)
    simp only [messages, mail, List.filter_append, List.filter_map, Function.comp_def, hnobody,
      List.map_nil, List.append_nil]

theorem Gone.run {t : Traffic} {i : Ticket} (h : t.Gone i) (events : List Event) :
    (t.run events).messages i = t.messages i := by
  induction events generalizing t with
  | nil => rfl
  | cons e rest ih => rw [run_cons, ih (h.step e).1, (h.step e).2]

/-! ## Tickets that wait -/

variable {t : Traffic} {id : String} {i : Ticket}

theorem Sound.messages_of_waits (h : t.Sound) (waits : t.exchange.waiting.get? id = some i) :
    t.messages i = [] := by
  simp only [messages, List.map_eq_nil_iff, List.filter_eq_nil_iff, decide_eq_true_eq]
  rintro ⟨j, reply⟩ hmem rfl
  exact (h.mailed j reply hmem).2 id waits

/-- Of those who wait, one holds a given ticket. -/
theorem Sound.filter_entries (h : t.Sound) (waits : t.exchange.waiting.get? id = some i) :
    (t.exchange.waiting.entries.filter fun entry => entry.2 = i) = [(id, i)] := by
  have hmem := Dictionary.mem_entries_iff.2 waits
  have hnodup : t.exchange.waiting.entries.Nodup := by
    refine List.Pairwise.imp (fun {a b} hlt => ?_) t.exchange.waiting.ascending
    rintro rfl
    exact String.lt_irrefl _ hlt
  have hsame : (t.exchange.waiting.entries.filter fun entry => entry.2 = i)
      = t.exchange.waiting.entries.filter (· = (id, i)) := by
    refine List.filter_congr ?_
    intro entry hentry
    obtain ⟨other, j⟩ := entry
    by_cases hj : j = i
    · subst hj
      obtain rfl := h.waits_once (Dictionary.mem_entries_iff.1 hentry) waits
      simp
    · simp [hj]
  rw [hsame, List.filter_eq, hnodup.count, if_pos hmem]
  rfl

/-- What the next event may mean for a ticket that waits. -/
inductive Next (t : Traffic) (id : String) (i : Ticket) (e : Event) : Prop where
  | waits (waits : (t.step e).exchange.waiting.get? id = some i)
  | answered (reply : Reply) (event : e = .replies id reply) (gone : (t.step e).Gone i)
      (messages : (t.step e).messages i = [reply])
  | told (exit : Nat) (r : ExitReport) (event : e = .reports exit)
      (reported : t.exits[exit]? = some r) (gone : (t.step e).Gone i)
      (messages : (t.step e).messages i = [.exited r.reason])
  | gaveUp (event : e = .forgets id) (gone : (t.step e).Gone i)
      (messages : (t.step e).messages i = [])
  | displaced (q : Queued) (event : e = .brings q) (same : q.invocation.id = id)
      (gone : (t.step e).Gone i) (messages : (t.step e).messages i = [])

theorem Sound.next (h : t.Sound) (waits : t.exchange.waiting.get? id = some i) (e : Event) :
    t.Next id i e := by
  have hnone := h.messages_of_waits waits
  have hlt := Nat.lt_of_lt_of_le (h.lt_of_waits waits) (length_senders_step t e)
  cases shift_step t e with
  | keeps waiting mail => exact .waits (waiting ▸ waits)
  | registers q event _ waiting mail =>
    by_cases hid : q.invocation.id = id
    · refine .displaced q event hid ⟨hlt, fun other hother => ?_⟩ ?_
      · rw [waiting, Dictionary.get?_insert] at hother
        split at hother
        · exact absurd (h.lt_of_waits waits) (by simp [← Option.some.inj hother])
        · next hne => exact hne ((h.waits_once hother waits).trans hid.symm)
      · rw [messages, mail, ← messages, hnone]
    · exact .waits (by rw [waiting, Dictionary.get?_insert_other _ _ (Ne.symm hid), waits])
  | answers other reply ticket event waits' waiting mail =>
    by_cases hid : other = id
    · subst hid
      obtain rfl : ticket = i := Option.some.inj (waits'.symm.trans waits)
      refine .answered reply event ⟨hlt, fun other' hother' => ?_⟩ ?_
      · rw [waiting] at hother'
        obtain ⟨hne, hother'⟩ := Dictionary.get?_of_get?_erase hother'
        exact hne (h.waits_once hother' waits)
      · simp only [messages] at hnone
        simp [messages, mail, hnone]
    · exact .waits (by rw [waiting, Dictionary.get?_erase_other _ (Ne.symm hid), waits])
  | givesUp other event waiting mail =>
    by_cases hid : other = id
    · subst hid
      refine .gaveUp event ⟨hlt, ?_⟩ (by rw [messages, mail, ← messages, hnone])
      intro other' hother'
      rw [waiting] at hother'
      obtain ⟨hne, hother'⟩ := Dictionary.get?_of_get?_erase hother'
      exact hne (h.waits_once hother' waits)
    · exact .waits (by rw [waiting, Dictionary.get?_erase_other _ (Ne.symm hid), waits])
  | tells exit r event reported waiting mail =>
    refine .told exit r event reported ⟨hlt, fun other => by simp [waiting]⟩ ?_
    have htold := h.filter_entries waits
    simp only [messages] at hnone
    simp only [messages, mail, List.filter_append, List.map_append, hnone, List.filter_map,
      Function.comp_def, htold, List.map_cons, List.map_nil, List.nil_append]

/-! ## Whole runs -/

/-- While a ticket waited, a reply to its invocation came. -/
def Answered (t : Traffic) (id : String) (i : Ticket) (events : List Event) (reply : Reply) : Prop :=
  ∃ sooner later, events = sooner ++ .replies id reply :: later ∧
    (t.run sooner).exchange.waiting.get? id = some i

/-- While a ticket waited, its holder gave up. -/
def GaveUp (t : Traffic) (id : String) (i : Ticket) (events : List Event) : Prop :=
  ∃ sooner later, events = sooner ++ .forgets id :: later ∧
    (t.run sooner).exchange.waiting.get? id = some i

/-- While a ticket waited, an invocation with the same id was brought. -/
def Displaced (t : Traffic) (id : String) (i : Ticket) (events : List Event) : Prop :=
  ∃ sooner q later, events = sooner ++ .brings q :: later ∧ q.invocation.id = id ∧
    (t.run sooner).exchange.waiting.get? id = some i

/-- What became of a ticket that waited before some events. -/
inductive Fate (t : Traffic) (id : String) (i : Ticket) (events : List Event) : Prop where
  | waits (waits : (t.run events).exchange.waiting.get? id = some i)
  | answered (reply : Reply) (answered : t.Answered id i events reply)
      (messages : (t.run events).messages i = [reply])
  | told (reason : String) (known : reason ∈ (t.run events).reasons)
      (messages : (t.run events).messages i = [.exited reason])
  | gaveUp (gaveUp : t.GaveUp id i events) (messages : (t.run events).messages i = [])
  | displaced (displaced : t.Displaced id i events) (messages : (t.run events).messages i = [])

/-- A fate that befalls a ticket after an event befalls it in the end. -/
theorem Fate.cons {e : Event} {rest : List Event} (h : (t.step e).Fate id i rest) :
    t.Fate id i (e :: rest) := by
  cases h with
  | waits waits => exact .waits waits
  | answered reply answered messages =>
    obtain ⟨sooner, later, rfl, hwaited⟩ := answered
    exact .answered reply ⟨e :: sooner, later, rfl, hwaited⟩ messages
  | told reason known messages => exact .told reason known messages
  | gaveUp gaveUp messages =>
    obtain ⟨sooner, later, rfl, hwaited⟩ := gaveUp
    exact .gaveUp ⟨e :: sooner, later, rfl, hwaited⟩ messages
  | displaced displaced messages =>
    obtain ⟨sooner, q, later, rfl, hid, hwaited⟩ := displaced
    exact .displaced ⟨e :: sooner, q, later, rfl, hid, hwaited⟩ messages

theorem Sound.fate (h : t.Sound) (waits : t.exchange.waiting.get? id = some i)
    (events : List Event) : t.Fate id i events := by
  induction events generalizing t with
  | nil => exact .waits waits
  | cons e rest ih =>
    cases h.next waits e with
    | waits waits' => exact (ih (h.step e) waits').cons
    | answered reply event gone messages =>
      have answered : t.Answered id i (e :: rest) reply := ⟨[], rest, by rw [event]; rfl, waits⟩
      exact .answered reply answered (by rw [run_cons, gone.run, messages])
    | told exit r event reported gone messages =>
      refine .told r.reason ?_ (by rw [run_cons, gone.run, messages])
      exact mem_reasons_run (List.mem_map_of_mem (List.mem_of_getElem? reported)) (e :: rest)
    | gaveUp event gone messages =>
      exact .gaveUp ⟨[], rest, by rw [event]; rfl, waits⟩ (by rw [run_cons, gone.run, messages])
    | displaced q event same gone messages =>
      exact .displaced ⟨[], q, rest, by rw [event]; rfl, same, waits⟩
        (by rw [run_cons, gone.run, messages])

/-! ## Bringing an invocation -/

/-- What somebody learns who brings an invocation, over the events that follow: they are refused
    because an exit was recorded, or are sent one message, which is a reply or tells of an exit,
    or they gave up or lost their place to somebody with the same id, and are sent none. -/
inductive Resolved (t : Traffic) (q : Queued) (since : List Event) : Prop where
  | refused (reason : String) (known : reason ∈ t.reasons)
      (exited : t.exchange.exitReason = some reason)
      (refused : (t.run (.brings q :: since)).senders[t.senders.length]?
        = some ⟨q, .refused reason⟩)
  | answered (reply : Reply)
      (answered : (t.step (.brings q)).Answered q.invocation.id t.senders.length since reply)
      (messages : (t.run (.brings q :: since)).messages t.senders.length = [reply])
  | told (reason : String) (known : reason ∈ (t.run (.brings q :: since)).reasons)
      (messages : (t.run (.brings q :: since)).messages t.senders.length = [.exited reason])
  | gaveUp (gaveUp : (t.step (.brings q)).GaveUp q.invocation.id t.senders.length since)
      (messages : (t.run (.brings q :: since)).messages t.senders.length = [])
  | displaced (displaced : (t.step (.brings q)).Displaced q.invocation.id t.senders.length since)
      (messages : (t.run (.brings q :: since)).messages t.senders.length = [])

/-- Once an exit was told to everyone, nobody who brought an invocation is left waiting. -/
theorem Sound.resolved (h : t.Sound) {q : Queued} {since : List Event}
    (drained : (t.run (.brings q :: since)).Drained) : t.Resolved q since := by
  have after : (t.step (.brings q)).Sound := h.step (.brings q)
  cases hexit : t.exchange.exitReason with
  | some reason =>
    have refused : (t.step (.brings q)).senders[t.senders.length]?
        = some ⟨q, .refused reason⟩ := by simp [step_brings_of_exited q hexit]
    exact .refused reason (h.known reason hexit) hexit (refused_run refused since)
  | none =>
    have waits : (t.step (.brings q)).exchange.waiting.get? q.invocation.id
        = some t.senders.length := by simp [step_brings_of_running q hexit]
    cases after.fate waits since with
    | waits waits' => simp [(after.run since).drained drained] at waits'
    | answered reply answered messages => exact .answered reply answered messages
    | told reason known messages => exact .told reason known messages
    | gaveUp gaveUp messages => exact .gaveUp gaveUp messages
    | displaced displaced messages => exact .displaced displaced messages

end FunctionHost.Traffic
