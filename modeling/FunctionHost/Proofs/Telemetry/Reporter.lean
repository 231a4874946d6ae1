-- SUMMARY: A sink that fills up holds the first bytes of all lines, and each line is flushed or warned of.
import FunctionHost.Proofs.Telemetry.Sink
import FunctionHost.Telemetry.Reporter
import Mathlib.Data.List.Induction

/-! # Reporting to a sink that fills up

However a sink takes the pieces of a line, and in whatever portions, the line comes to be written as
if it was offered at once. A sink with room for a number of bytes then holds this many bytes of all
lines together, and no gap. It was flushed once for each line that ends within them, and there is a
warning for each of the others. -/

namespace FunctionHost.Telemetry

namespace Sink

variable {s : Sink}

/-! ## Room -/

theorem room_le (s : Sink) (wanted : Nat) : s.room wanted ≤ wanted := by
  cases h : s.capacity with
  | none => exact Nat.le_of_eq (room_unlimited h wanted)
  | some capacity =>
    rw [room_limited h]
    exact Nat.min_le_left _ _

theorem room_zero (s : Sink) : s.room 0 = 0 :=
  Nat.le_zero.1 (s.room_le 0)

/-- The bytes that a sink has taken are no longer free. -/
theorem room_push (s : Sink) (taken : Bytes) (wanted : Nat) :
    (s.push taken).room (wanted - taken.length) = s.room wanted - taken.length := by
  cases h : s.capacity with
  | none => rw [room_unlimited h, room_unlimited (s := s.push taken) h]
  | some capacity =>
    rw [room_limited h, room_limited (s := s.push taken) h]
    simp only [push, List.length_append]
    omega

/-- What there is room for, there is room for if more is wanted. -/
theorem room_le_add (s : Sink) (wanted more : Nat) : s.room wanted ≤ s.room (wanted + more) := by
  cases h : s.capacity with
  | none =>
    rw [room_unlimited h, room_unlimited h]
    exact Nat.le_add_right wanted more
  | some capacity =>
    rw [room_limited h, room_limited h]
    omega

/-- If there is not room for all of something, then there is none for what comes after it. -/
theorem room_add_of_ne {wanted : Nat} (partly : s.room wanted ≠ wanted) (more : Nat) :
    s.room (wanted + more) = s.room wanted := by
  cases h : s.capacity with
  | none => exact absurd (room_unlimited h wanted) partly
  | some capacity =>
    rw [room_limited h] at partly ⊢
    rw [room_limited h]
    omega

/-! ## Portions and pieces -/

theorem push_nil (s : Sink) : s.push [] = s := by
  unfold push
  rw [List.append_nil]

theorem push_push (s : Sink) (first second : Bytes) :
    (s.push first).push second = s.push (first ++ second) := by
  unfold push
  rw [List.append_assoc]

theorem take_eq_push (s : Sink) (bs : Bytes) :
    s.take bs = s.push (bs.take (s.room bs.length)) := rfl

theorem take_of_room {bs : Bytes} (whole : s.room bs.length = bs.length) :
    s.take bs = s.push bs := by
  rw [take_eq_push, whole, List.take_length]

/-- Bytes that a sink has no room for leave it as it is. -/
theorem take_of_full {bs : Bytes} (full : s.room bs.length = 0) : s.take bs = s := by
  rw [take_eq_push, full, List.take_zero, push_nil]

/-- A sink that took a part of some bytes takes of the others what it takes of all of them. -/
theorem take_push {bs : Bytes} {taken : Nat} (within : taken ≤ s.room bs.length) :
    (s.push (bs.take taken)).take (bs.drop taken) = s.take bs ∧
      (s.push (bs.take taken)).room (bs.drop taken).length = s.room bs.length - taken := by
  have hlength : (bs.take taken).length = taken :=
    List.length_take_of_le (Nat.le_trans within (s.room_le bs.length))
  have left := s.room_push (bs.take taken) bs.length
  rw [hlength] at left
  rw [take_eq_push, take_eq_push, push_push, List.length_drop, left, ← List.take_add,
    Nat.add_sub_of_le within]
  exact ⟨rfl, rfl⟩

/-- Offering a piece comes to taking as much of it as there is room for. The induction is on the
    portions, each of which leaves less to be taken. -/
theorem offer_eq (pace : Pace) (s : Sink) (piece : Bytes) :
    s.offer pace piece = (s.take piece, decide (s.room piece.length = piece.length)) := by
  fun_induction offer pace s piece with
  | case1 s => simp [take_of_full, room_zero]
  | case2 s piece some full =>
    have notWhole : 0 ≠ piece.length := Nat.ne_of_lt (List.length_pos_iff.2 some)
    simp [take_of_full full, full, notWhole]
  | case3 s piece some room taken ih =>
    have within : taken ≤ s.room piece.length := pace.within s piece
    have hroom := s.room_le piece.length
    obtain ⟨htake, left⟩ := take_push within
    rw [ih, htake, left, List.length_drop]
    -- There is room for the rest of a piece just if there was room for all of it.
    congr 2
    apply propext
    omega

theorem take_append_of_room {first : Bytes} (whole : s.room first.length = first.length)
    (second : Bytes) :
    s.take (first ++ second) = (s.push first).take second ∧
      s.room (first ++ second).length = first.length + (s.push first).room second.length := by
  have within : first.length ≤ s.room (first ++ second).length := by
    rw [List.length_append]
    exact Nat.le_trans (Nat.le_of_eq whole.symm) (s.room_le_add _ _)
  obtain ⟨htake, left⟩ := take_push within
  rw [List.take_left] at htake left
  rw [List.drop_left] at htake left
  exact ⟨htake.symm, by omega⟩

theorem take_append_of_ne {first : Bytes} (partly : s.room first.length ≠ first.length)
    (second : Bytes) :
    s.take (first ++ second) = s.take first ∧
      s.room (first ++ second).length = s.room first.length := by
  have same : s.room (first ++ second).length = s.room first.length := by
    rw [List.length_append]
    exact room_add_of_ne partly second.length
  refine ⟨?_, same⟩
  rw [take_eq_push, same, List.take_append_of_le_length (s.room_le first.length), take_eq_push]

/-- Offering pieces comes to taking as much of them, joined, as there is room for. -/
theorem offerAll_eq (pace : Pace) (s : Sink) (pieces : List Bytes) :
    s.offerAll pace pieces =
      (s.take pieces.flatten, decide (s.room pieces.flatten.length = pieces.flatten.length)) := by
  induction pieces generalizing s with
  | nil => simp [offerAll, take_of_full, room_zero]
  | cons piece rest ih =>
    unfold offerAll
    rw [offer_eq, List.flatten_cons]
    by_cases whole : s.room piece.length = piece.length
    · obtain ⟨htake, hroom⟩ := take_append_of_room whole rest.flatten
      rw [List.length_append] at hroom ⊢
      simp only [whole, decide_true, take_of_room whole, ih, htake, hroom,
        Nat.add_left_cancel_iff]
    · obtain ⟨htake, hroom⟩ := take_append_of_ne whole rest.flatten
      have short : s.room piece.length ≠ (piece ++ rest.flatten).length := by
        have := s.room_le piece.length
        rw [List.length_append]
        omega
      simp [whole, htake, hroom, short, -List.length_append]

theorem write_eq (s : Sink) (l : Line) :
    s.write l =
      if s.room (lineBytes l).length = (lineBytes l).length then ((s.take (lineBytes l)).flush, [])
      else (s.take (lineBytes l), [full]) := rfl

/-- Writing a line piece by piece is writing it at once. -/
theorem emit_eq (pace : Pace) (s : Sink) (l : Line) : s.emit pace l = s.write l := by
  have joined : (pieces l).flatten = lineBytes l := rfl
  unfold emit
  rw [offerAll_eq, joined, write_eq]
  by_cases whole : s.room (lineBytes l).length = (lineBytes l).length <;> simp [whole]

/-- The text of the line fits, but not its line feed. -/
example :
    (limited 29).emit .greedy (.started "a" "1") =
      (⟨Text.Utf8.bytes "START RequestId: a Version: 1", 0, some 29⟩, [full]) := by
  rw [emit_eq]
  decide +kernel

/-! ## Filling up -/

/-- Where each line ends, with its line feed, in the bytes of all of them. -/
def ends (ls : List Line) : List Nat :=
  (List.range ls.length).map fun i => ((ls.take (i + 1)).flatMap lineBytes).length

theorem ends_concat (ls : List Line) (l : Line) :
    ends (ls ++ [l]) = ends ls ++ [((ls ++ [l]).flatMap lineBytes).length] := by
  have before : ∀ i ∈ List.range ls.length,
      (((ls ++ [l]).take (i + 1)).flatMap lineBytes).length =
        ((ls.take (i + 1)).flatMap lineBytes).length := by
    intro i hi
    rw [List.take_append_of_le_length (List.mem_range.1 hi)]
  have whole : (ls ++ [l]).take (ls.length + 1) = ls ++ [l] :=
    List.take_of_length_le (Nat.le_of_eq List.length_append)
  unfold ends
  rw [List.length_append, List.length_singleton, List.range_succ, List.map_append,
    List.map_congr_left before, List.map_singleton, whole]

/-- What a sink holds, and what was logged, after lines were written to it in a capacity. -/
structure FilledBy (capacity : Nat) (ls : List Line) (s : Sink) (log : List Log.Entry) : Prop where
  limit : s.capacity = some capacity
  written : s.written = (ls.flatMap lineBytes).take capacity
  flushed : s.flushes = (ends ls).countP (· ≤ capacity)
  warned : log = List.replicate ((ends ls).countP (capacity < ·)) full

variable {capacity : Nat} {ls : List Line} {log : List Log.Entry}

theorem FilledBy.nil (capacity : Nat) : FilledBy capacity [] (limited capacity) [] where
  limit := rfl
  written := List.take_nil.symm
  flushed := rfl
  warned := rfl

/-- There is room for a line just if it ends within the capacity. -/
theorem FilledBy.room_iff (h : FilledBy capacity ls s log) (l : Line) :
    s.room (lineBytes l).length = (lineBytes l).length ↔
      ((ls ++ [l]).flatMap lineBytes).length ≤ capacity := by
  have some : 0 < (lineBytes l).length := by
    unfold lineBytes
    rw [List.length_append]
    exact Nat.lt_add_left _ Nat.one_pos
  rw [room_limited h.limit, h.written, List.flatMap_append, List.flatMap_singleton,
    List.length_append, List.length_take]
  omega

/-- What one more line leaves in the sink. -/
theorem FilledBy.concat (h : FilledBy capacity ls s log) (l : Line) :
    FilledBy capacity (ls ++ [l]) (s.write l).1 (log ++ (s.write l).2) where
  limit := by rw [capacity_write, h.limit]
  written := by
    have taken : (s.write l).1.written =
        s.written ++ (lineBytes l).take (s.room (lineBytes l).length) := by
      rw [write_eq]
      split <;> rfl
    -- The capacity cuts the last line where the room for it ends, and the lines before it are cut
    -- already.
    rw [taken, h.written, room_limited h.limit, h.written, List.flatMap_append,
      List.flatMap_singleton, List.take_append, List.append_cancel_left_eq, List.take_eq_take_iff,
      List.length_take]
    omega
  flushed := by
    rw [ends_concat, List.countP_append, List.countP_singleton, ← h.flushed]
    simp only [write_eq, h.room_iff, decide_eq_true_eq]
    split <;> rfl
  warned := by
    rw [ends_concat, List.countP_append, List.countP_singleton, h.warned]
    simp only [write_eq, h.room_iff, decide_eq_true_eq, ← Nat.not_le]
    split <;> simp [List.replicate_succ']

/-- What several lines leave in a sink that was empty. The induction is on the lines, from the
    last one. -/
theorem filledBy_writeAll (capacity : Nat) (ls : List Line) :
    FilledBy capacity ls ((limited capacity).writeAll ls).1 ((limited capacity).writeAll ls).2 := by
  induction ls using List.reverseRecOn with
  | nil => exact FilledBy.nil capacity
  | append_singleton ls l ih =>
    have step := ih.concat l
    rw [writeAll_append]
    simpa [writeAll] using step

end Sink

namespace Reporter

/-- A line can be written to a sink that no call keeps to itself, and no call does so afterwards. -/
theorem emit?_eq (pace : Pace) (sink : Sink) (log : List Log.Entry) (l : Line) :
    emit? pace ⟨sink, false, log⟩ l = some ⟨(sink.write l).1, false, log ++ (sink.write l).2⟩ := by
  unfold emit?
  simp [lock?, unlock, Sink.emit_eq]

theorem emitAll_eq (pace : Pace) (sink : Sink) (log : List Log.Entry) (ls : List Line) :
    ls.foldlM (emit? pace) ⟨sink, false, log⟩ =
      some ⟨(sink.writeAll ls).1, false, log ++ (sink.writeAll ls).2⟩ := by
  induction ls generalizing sink log with
  | nil => simp [Sink.writeAll]
  | cons l rest ih =>
    rw [List.foldlM_cons, emit?_eq]
    simp [Sink.writeAll, ih]

/-- Calls write their lines one after the other. -/
theorem run?_eq_foldlM (pace : Pace) (r : Reporter) (calls : List Call) :
    r.run? pace calls = (calls.flatMap Call.lines).foldlM (emit? pace) r := by
  induction calls generalizing r with
  | nil => rfl
  | cons c rest ih =>
    unfold run? at ih ⊢
    rw [List.foldlM_cons, List.flatMap_cons, List.foldlM_append]
    exact congrArg _ (funext ih)

end Reporter

/-- The texts of the lines that a call writes. -/
def Call.lineTexts : Call → List String
  | .start id version => [startText id version]
  | .finish id init memory elapsed limit =>
    let millis := elapsed.clampedMillis limit
    closingTexts id init (millis.fixed 2) (millis.ceil.fixed 0) memory

theorem Call.map_render_lines (c : Call) : c.lines.map Line.render = c.lineTexts := by
  cases c with
  | start id version => rfl
  | finish id init memory elapsed limit => exact render_closing id init memory elapsed limit

theorem Sink.flatMap_lineBytes (ls : List Line) :
    ls.flatMap lineBytes =
      (ls.map Line.render).flatMap fun text => Text.Utf8.bytes text ++ [0x0A] := by
  rw [List.flatMap_map]
  rfl

/-- Any calls to a reporter come to their end, however its sink takes what it is offered, and leave
    the sink to the next one. The sink holds as many of the bytes of their lines as it has room for,
    where each text is followed by a line feed. It was flushed for each line that ends within them,
    and each of the others was warned of. It is all the same as if the lines were written at
    once. -/
theorem reported_up_to_capacity (pace : Pace) (capacity : Nat) (calls : List Call) :
    ∃ r, (Reporter.onto (.limited capacity)).run? pace calls = some r ∧ r.locked = false ∧
      Sink.FilledBy capacity (calls.flatMap Call.lines) r.sink r.log ∧
      (calls.flatMap Call.lines).map Line.render = calls.flatMap Call.lineTexts ∧
      r.sink.written = ((calls.flatMap Call.lineTexts).flatMap fun text =>
        Text.Utf8.bytes text ++ [0x0A]).take capacity ∧
      (r.sink, r.log) = (Sink.limited capacity).writeAll (calls.flatMap Call.lines) := by
  have run := Reporter.run?_eq_foldlM pace (Reporter.onto (.limited capacity)) calls
  unfold Reporter.onto at run ⊢
  rw [Reporter.emitAll_eq, List.nil_append] at run
  have filled := Sink.filledBy_writeAll capacity (calls.flatMap Call.lines)
  have texts : (calls.flatMap Call.lines).map Line.render = calls.flatMap Call.lineTexts := by
    rw [List.map_flatMap]
    exact congrArg (calls.flatMap ·) (funext Call.map_render_lines)
  refine ⟨_, run, rfl, filled, texts, ?_, rfl⟩
  rw [filled.written, Sink.flatMap_lineBytes, texts]

/-- An invocation of which the first line fits, but only a part of the second one, and the start of
    another one. -/
def cutShort : List Call :=
  [.start "a" "1", .finish "a" none "128" (.ofSeconds 2) (.ofSeconds 300), .start "b" "1"]

theorem reported_up_to_capacity_cutShort :
    ∃ r, (Reporter.onto (.limited 35)).run? .greedy cutShort = some r ∧ r.locked = false ∧
      r.sink.written = Text.Utf8.bytes "START RequestId: a Version: 1\nEND R" ∧
      r.sink.flushes = 1 ∧ r.log = List.replicate 3 Sink.full := by
  obtain ⟨r, run, free, filled, -, written, -⟩ := reported_up_to_capacity .greedy 35 cutShort
  refine ⟨r, run, free, written.trans ?_, filled.flushed.trans ?_, filled.warned.trans ?_⟩ <;>
    decide +kernel

end FunctionHost.Telemetry
