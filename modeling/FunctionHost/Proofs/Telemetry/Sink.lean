-- SUMMARY: The texts of telemetry lines, what an unlimited sink holds, and how it is read back.
import FunctionHost.Proofs.Number.Decimal
import FunctionHost.Proofs.Text.Lines
import FunctionHost.Proofs.Text.Utf8
import FunctionHost.Telemetry.Sink

/-! # Reading telemetry back

The texts of the lines about an invocation are spelled out here, and what is rendered comes to them.
A sink with room for everything holds the bytes of all lines written to it. As long as the texts in
them are single lines, so are the telemetry lines, and the lines of the sink are just those that
were written, in order. -/

namespace FunctionHost.Telemetry

open Number (Binary64)
open Text.Lines (IsUnbroken)

/-! ## Texts -/

/-- The text of the line at the start of an invocation. -/
def startText (id version : String) : String :=
  "START RequestId: " ++ id ++ " Version: " ++ version

/-- The part of a report about the start of the function. -/
def initText : Option Binary64 → String
  | some millis => "Init Duration: " ++ millis.fixed 2 ++ " ms\t"
  | none => ""

/-- The two lines at the end of an invocation, with given texts for the durations. -/
def closingTexts (id : String) (init : Option Binary64) (duration billed memory : String) :
    List String :=
  [ "END RequestId: " ++ id,
    "REPORT RequestId: " ++ id ++ "\t" ++ initText init
      ++ "Duration: " ++ duration ++ " ms\t"
      ++ "Billed Duration: " ++ billed ++ " ms\t"
      ++ "Memory Size: " ++ memory ++ " MB\t"
      ++ "Max Memory Used: " ++ memory ++ " MB\t" ]

theorem initSegment_eq (init : Option Binary64) : initSegment init = initText init := by
  cases init <;> rfl

/-- The texts of the closing lines. What is billed is rounded up to whole milliseconds. -/
theorem render_closing (id : String) (init : Option Binary64) (memory : String)
    (elapsed limit : Time.Span) :
    (closing id init memory elapsed limit).map Line.render =
      closingTexts id init ((elapsed.clampedMillis limit).fixed 2)
        ((elapsed.clampedMillis limit).ceil.fixed 0) memory := by
  unfold closing closingTexts
  rw [← initSegment_eq]
  rfl

/-! ## Lines -/

namespace Line

/-- The id of the invocation that a line is about. -/
def id : Line → String
  | .started id _ => id
  | .ended id => id
  | .report id _ _ _ => id

/-- The duration of the start that a line reports, if it does. -/
def init? : Line → Option Binary64
  | .report _ init _ _ => init
  | _ => none

/-- The texts in a line, which come from outside. -/
def texts : Line → List String
  | .started id version => [id, version]
  | .ended id => [id]
  | .report id _ _ memory => [id, memory]

/-- A line of which every text is a single line. -/
def IsWhole (l : Line) : Prop :=
  ∀ text ∈ l.texts, IsUnbroken text.toList

theorem render_started (id version : String) :
    (Line.started id version).render = "START RequestId: " ++ id ++ " Version: " ++ version := rfl

theorem render_ended (id : String) : (Line.ended id).render = "END RequestId: " ++ id := rfl

theorem render_report (id : String) (init : Option Binary64) (duration : Binary64)
    (memory : String) :
    (Line.report id init duration memory).render =
      "REPORT RequestId: " ++ id ++ "\t" ++ initSegment init
        ++ "Duration: " ++ duration.fixed 2 ++ " ms\t"
        ++ "Billed Duration: " ++ duration.ceil.fixed 0 ++ " ms\t"
        ++ "Memory Size: " ++ memory ++ " MB\t"
        ++ "Max Memory Used: " ++ memory ++ " MB\t" := rfl

end Line

theorem isUnbroken_fixed (x : Binary64) (places : Nat) :
    IsUnbroken (x.fixed places).toList := by
  intro c hc
  rcases Number.mem_fixed hc with hdigit | hmark
  · constructor <;>
    · rintro rfl
      exact absurd hdigit (by decide)
  · exact (show IsUnbroken Number.marks by decide +kernel) c hmark

theorem isUnbroken_initText (init : Option Binary64) : IsUnbroken (initText init).toList := by
  cases init with
  | none => exact show IsUnbroken "".toList by decide +kernel
  | some millis =>
    have hmillis := isUnbroken_fixed millis 2
    simp only [initText, String.toList_append, Text.Lines.isUnbroken_append, hmillis, and_true]
    decide +kernel

theorem isUnbroken_render {l : Line} (h : l.IsWhole) : IsUnbroken l.render.toList := by
  cases l with
  | started id version =>
    have hid := h id (by simp [Line.texts])
    have hversion := h version (by simp [Line.texts])
    rw [Line.render_started]
    simp only [String.toList_append, Text.Lines.isUnbroken_append, hid, hversion, and_true]
    decide +kernel
  | ended id =>
    have hid := h id (by simp [Line.texts])
    rw [Line.render_ended]
    simp only [String.toList_append, Text.Lines.isUnbroken_append, hid, and_true]
    decide +kernel
  | report id init duration memory =>
    have hid := h id (by simp [Line.texts])
    have hmemory := h memory (by simp [Line.texts])
    have hinit := isUnbroken_initText init
    have hduration := isUnbroken_fixed duration 2
    have hbilled := isUnbroken_fixed duration.ceil 0
    rw [Line.render_report, initSegment_eq]
    simp only [String.toList_append, Text.Lines.isUnbroken_append, hid, hmemory, hinit, hduration,
      hbilled, and_true]
    decide +kernel

/-! ## Sinks -/

namespace Sink

variable {s : Sink} {l : Line} {ls : List Line}

theorem room_unlimited (h : s.capacity = none) (wanted : Nat) : s.room wanted = wanted := by
  unfold room
  rw [h]

theorem room_limited {capacity : Nat} (h : s.capacity = some capacity) (wanted : Nat) :
    s.room wanted = min wanted (capacity - s.written.length) := by
  unfold room
  rw [h]

theorem capacity_write (s : Sink) (l : Line) : (s.write l).1.capacity = s.capacity := by
  simp only [write]
  split <;> rfl

theorem written_write (h : s.capacity = none) (l : Line) :
    (s.write l).1.written = s.written ++ lineBytes l := by
  simp [write, take, room_unlimited h]

theorem writeAll_append (s : Sink) (first second : List Line) :
    s.writeAll (first ++ second) =
      (((s.writeAll first).1.writeAll second).1,
        (s.writeAll first).2 ++ ((s.writeAll first).1.writeAll second).2) := by
  induction first generalizing s with
  | nil => rfl
  | cons l rest ih => simp [writeAll, ih]

/-- A sink with room for everything takes whole lines. -/
theorem written_writeAll (h : s.capacity = none) (ls : List Line) :
    (s.writeAll ls).1.written = s.written ++ ls.flatMap lineBytes := by
  induction ls generalizing s with
  | nil => exact (List.append_nil _).symm
  | cons l rest ih =>
    have unlimited : (s.write l).1.capacity = none := (capacity_write s l).trans h
    rw [List.flatMap_cons, ← List.append_assoc, ← written_write h]
    exact ih unlimited

/-- The lines of a sink are those that were written to it. -/
theorem lines_of_written (h : s.written = ls.flatMap lineBytes) (whole : ∀ l ∈ ls, l.IsWhole) :
    s.lines = ls.map Line.render := by
  have hencode : s.written =
      Text.Utf8.encode ((ls.map fun l => l.render.toList).flatMap (· ++ ['\n'])) := by
    rw [h]
    simp [Text.Utf8.encode, List.flatMap_map, List.flatMap_assoc]
    rfl
  have hlines : ∀ line ∈ ls.map fun l => l.render.toList, IsUnbroken line := by
    intro line hline
    obtain ⟨l, hl, rfl⟩ := List.mem_map.1 hline
    exact isUnbroken_render (whole l hl)
  rw [lines, hencode, Text.Utf8.decodeLossy_encode, Text.Lines.split_flatMap hlines]
  simp [Function.comp_def]

end Sink

end FunctionHost.Telemetry
