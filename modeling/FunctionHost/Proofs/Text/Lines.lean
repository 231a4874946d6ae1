-- SUMMARY: Splitting lines that were each ended by a line feed gives these lines back.
import FunctionHost.Text.Lines

/-! # Reading lines that were written

A sequence of characters without a line feed or a carriage return is one line. If such lines are
each followed by a line feed, splitting the text gives back exactly these lines. -/

namespace FunctionHost.Text.Lines

/-- Characters that make up a single line, of which nothing is taken for its ending. -/
def IsUnbroken (line : List Char) : Prop :=
  ∀ c ∈ line, c ≠ '\n' ∧ c ≠ '\r'

instance (line : List Char) : Decidable (IsUnbroken line) :=
  List.decidableBAll _ line

theorem isUnbroken_append {first second : List Char} :
    IsUnbroken (first ++ second) ↔ IsUnbroken first ∧ IsUnbroken second :=
  List.forall_mem_append

theorem chop_reverse {line : List Char} (h : IsUnbroken line) : chop line.reverse = line := by
  unfold chop
  split
  · next earlier hline =>
    have hmem : '\r' ∈ line := List.mem_reverse.1 (hline ▸ List.mem_cons_self)
    exact absurd rfl (h '\r' hmem).2
  · exact List.reverse_reverse line

/-- A line is read character by character up to its line feed. -/
theorem splitFrom_line {line : List Char} (h : IsUnbroken line) (done : List (List Char))
    (begun rest : List Char) :
    splitFrom done begun (line ++ '\n' :: rest) =
      splitFrom (chop (line.reverse ++ begun) :: done) [] rest := by
  induction line generalizing begun with
  | nil => simp [splitFrom]
  | cons c line ih =>
    have hc : c ≠ '\n' := (h c List.mem_cons_self).1
    have hline : IsUnbroken line := fun c hmem => h c (List.mem_cons_of_mem _ hmem)
    simp [splitFrom, hc, ih hline]

theorem splitFrom_flatMap {lines : List (List Char)} (h : ∀ line ∈ lines, IsUnbroken line)
    (done : List (List Char)) :
    splitFrom done [] (lines.flatMap (· ++ ['\n'])) = done.reverse ++ lines := by
  induction lines generalizing done with
  | nil => simp [splitFrom]
  | cons line rest ih =>
    have hline := h line List.mem_cons_self
    have hrest := fun line hmem => h line (List.mem_cons_of_mem _ hmem)
    rw [List.flatMap_cons, List.append_assoc, List.singleton_append, splitFrom_line hline,
      List.append_nil, chop_reverse hline, ih hrest]
    simp

theorem split_flatMap {lines : List (List Char)} (h : ∀ line ∈ lines, IsUnbroken line) :
    split (lines.flatMap (· ++ ['\n'])) = lines :=
  splitFrom_flatMap h []

end FunctionHost.Text.Lines
