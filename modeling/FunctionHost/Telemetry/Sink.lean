-- SUMMARY: Where telemetry lines are written, with room for all of them or for a limited number of bytes.
import FunctionHost.Log
import FunctionHost.Telemetry.Line
import FunctionHost.Text.Lines
import FunctionHost.Text.Utf8

/-! # Sinks

A line is written together with its line feed and then flushed. A sink may have room for a
limited number of bytes. It then takes as many as fit and fails, the line is not flushed, and
the failure is logged. -/

namespace FunctionHost.Telemetry

/-- What was written, how often it was flushed, and how many bytes there is room for in all. -/
structure Sink where
  written : Bytes
  flushes : Nat
  capacity : Option Nat
  deriving Repr, DecidableEq

namespace Sink

/-- A sink that takes everything. -/
def unlimited : Sink :=
  ⟨[], 0, none⟩

/-- A sink that takes a number of bytes in all. -/
def limited (capacity : Nat) : Sink :=
  ⟨[], 0, some capacity⟩

/-- How many of a number of further bytes there is room for. -/
def room (s : Sink) (wanted : Nat) : Nat :=
  match s.capacity with
  | some capacity => min wanted (capacity - s.written.length)
  | none => wanted

/-- A sink after some bytes were offered to it. It takes as many as there is room for. -/
def take (s : Sink) (bs : Bytes) : Sink :=
  { s with written := s.written ++ bs.take (s.room bs.length) }

/-- The bytes of a line with its line feed. -/
def lineBytes (l : Line) : Bytes :=
  Text.Utf8.bytes l.render ++ [0x0A]

/-- What is logged when a line does not fit. -/
def full : Log.Entry :=
  Log.warning "Failed to write report line: sink is full"

/-- A sink after a line was written to it, and what is logged about that. -/
def write (s : Sink) (l : Line) : Sink × List Log.Entry :=
  let bs := lineBytes l
  let s' := s.take bs
  if s.room bs.length = bs.length then ({ s' with flushes := s'.flushes + 1 }, [])
  else (s', [full])

/-- A sink after several lines were written to it, and what is logged about that. -/
def writeAll (s : Sink) : List Line → Sink × List Log.Entry
  | [] => (s, [])
  | l :: rest =>
    let (s', logged) := s.write l
    let (s'', more) := writeAll s' rest
    (s'', logged ++ more)

/-- The lines of what was written. -/
def lines (s : Sink) : List String :=
  (Text.Lines.split (Text.Utf8.decodeLossy s.written)).map String.ofList

end Sink

end FunctionHost.Telemetry
