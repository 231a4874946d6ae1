-- SUMMARY: Calls that write telemetry lines, piece by piece, to a sink that they share.
import FunctionHost.Telemetry.Sink

/-! # Reporters

Calls about invocations write their lines to one sink, which each of them keeps to itself while it
writes a line. The text of a line and its line feed are offered to the sink one after the other. A
sink may take a piece in portions, and what it did not take is offered again. Once there is no room,
the sink fails, and nothing more of the line is offered. A line that was taken completely is
flushed, a failure is logged, and either way the sink is given back. -/

namespace FunctionHost.Telemetry

/-- How much a sink takes at once of the bytes that it is offered: any part of what there is room
    for, but not nothing. -/
structure Pace where
  portion (s : Sink) (bs : Bytes) : Nat
  within (s : Sink) (bs : Bytes) : portion s bs ≤ s.room bs.length
  advances (s : Sink) (bs : Bytes) (room : s.room bs.length ≠ 0) : portion s bs ≠ 0

/-- A sink that takes at once all that there is room for. -/
def Pace.greedy : Pace where
  portion s bs := s.room bs.length
  within _ _ := Nat.le_refl _
  advances _ _ room := room

namespace Sink

/-- A sink with some more bytes. -/
def push (s : Sink) (bs : Bytes) : Sink :=
  { s with written := s.written ++ bs }

/-- A sink after a flush. -/
def flush (s : Sink) : Sink :=
  { s with flushes := s.flushes + 1 }

/-- A sink after a piece was offered to it until it was taken or the sink failed, and whether it was
    taken. -/
def offer (pace : Pace) (s : Sink) (piece : Bytes) : Sink × Bool :=
  if piece = [] then (s, true)
  else if s.room piece.length = 0 then (s, false)
  else
    let taken := pace.portion s piece
    offer pace (s.push (piece.take taken)) (piece.drop taken)
  termination_by piece.length
  decreasing_by
    have advances := pace.advances s piece ‹_›
    have some := List.length_pos_iff.2 ‹piece ≠ []›
    rw [List.length_drop]
    omega

/-- A sink after pieces were offered to it up to the first one that was not taken, and whether all
    of them were. -/
def offerAll (pace : Pace) (s : Sink) : List Bytes → Sink × Bool
  | [] => (s, true)
  | piece :: rest =>
    match s.offer pace piece with
    | (s', true) => offerAll pace s' rest
    | (s', false) => (s', false)

/-- The pieces in which a line is offered. -/
def pieces (l : Line) : List Bytes :=
  [Text.Utf8.bytes l.render, [0x0A]]

/-- A sink after a line was offered to it, and what is logged about that. -/
def emit (pace : Pace) (s : Sink) (l : Line) : Sink × List Log.Entry :=
  match s.offerAll pace (pieces l) with
  | (s', true) => (s'.flush, [])
  | (s', false) => (s', [full])

end Sink

/-- A call about an invocation: that it starts, or that it came to its end. -/
inductive Call where
  | start (id version : String)
  | finish (id : String) (init : Option Number.Binary64) (memory : String)
      (elapsed limit : Time.Span)

/-- The lines that a call writes. -/
def Call.lines : Call → List Line
  | .start id version => [.started id version]
  | .finish id init memory elapsed limit => closing id init memory elapsed limit

/-- A sink that calls share, whether one of them keeps it to itself, and what was logged. -/
structure Reporter where
  sink : Sink
  locked : Bool
  log : List Log.Entry

namespace Reporter

/-- A reporter before its first call. -/
def onto (sink : Sink) : Reporter :=
  ⟨sink, false, []⟩

/-- A reporter with its sink kept by a call. If another one keeps it for ever, the call waits for
    ever. -/
def lock? (r : Reporter) : Option Reporter :=
  if r.locked then none else some { r with locked := true }

/-- A reporter with its sink given back. -/
def unlock (r : Reporter) : Reporter :=
  { r with locked := false }

/-- A reporter after a line was written, if the call comes to its end. -/
def emit? (pace : Pace) (r : Reporter) (l : Line) : Option Reporter := do
  let held ← r.lock?
  let (sink, logged) := held.sink.emit pace l
  return Reporter.unlock { held with sink, log := held.log ++ logged }

/-- A reporter after a call, if the call comes to its end. -/
def call? (pace : Pace) (r : Reporter) (c : Call) : Option Reporter :=
  c.lines.foldlM (emit? pace) r

/-- A reporter after some calls, if all of them come to their end. -/
def run? (pace : Pace) (r : Reporter) (calls : List Call) : Option Reporter :=
  calls.foldlM (call? pace) r

end Reporter

end FunctionHost.Telemetry
