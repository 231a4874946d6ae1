-- SUMMARY: Fields: expanded words, cut where their text has separators, with their quoting kept.
import FunctionHost.Rehearsal.Shell.Pattern

/-! # Fields

A word becomes any number of fields. Text that comes from an expansion outside of quotes is cut at
separators: those that are white space count together and not at the ends, and each of the others
ends a field. A boundary between arguments counts as white space. A word that has no text and no
quotes becomes no field. -/

namespace FunctionHost.Rehearsal.Shell

/-- A piece of an expanded word: a character that may be quoted and may separate fields, a mark
    that there were quotes, or a boundary between arguments. -/
inductive Cell where
  | letter (c : Char) (quoted splits : Bool)
  | quotes
  | boundary
  deriving Repr, DecidableEq

namespace Cell

/-- The cells of a text that comes from an expansion. -/
def ofText (quoted : Bool) (text : String) : List Cell :=
  text.toList.map fun c => .letter c quoted !quoted

/-- The letters of cells that are not cut, with a text at the boundaries. -/
def joined (between : List Char) (cells : List Cell) : List Pattern.Letter :=
  cells.flatMap fun cell =>
    match cell with
    | .letter c quoted _ => [(c, quoted)]
    | .quotes => []
    | .boundary => between.map fun c => (c, true)

/-- The text of cells that are not cut. -/
def text (between : List Char) (cells : List Cell) : String :=
  String.ofList ((joined between cells).map Prod.fst)

end Cell

/-- Fields while they are cut. A current field may not have begun, and blanks may have ended the
    one before it. -/
structure Cutting where
  done : List (List Pattern.Letter)
  current : Option (List Pattern.Letter)
  afterBlank : Bool

namespace Cutting

/-- Before the first cell. -/
def start : Cutting :=
  ⟨[], none, false⟩

/-- The current field ends, if it has begun. -/
def close (cut : Cutting) : Cutting :=
  match cut.current with
  | some letters => { cut with done := letters.reverse :: cut.done, current := none }
  | none => cut

/-- The next cell. -/
def step (separators : List Char) (cut : Cutting) (cell : Cell) : Cutting :=
  match cell with
  | .quotes => { cut with current := some (cut.current.getD []), afterBlank := false }
  | .boundary => if cut.current.isSome then { cut.close with afterBlank := true } else cut
  | .letter c quoted splits =>
    if splits && separators.contains c then
      if " \t\n".contains c then
        if cut.current.isSome then { cut.close with afterBlank := true } else cut
      else if cut.current.isSome then { cut.close with afterBlank := false }
      else if cut.afterBlank then { cut with afterBlank := false }
      else { cut with done := [] :: cut.done }
    else
      { cut with current := some ((c, quoted) :: cut.current.getD []), afterBlank := false }

end Cutting

/-- The fields of an expanded word. -/
def fieldsOf (separators : List Char) (cells : List Cell) : List (List Pattern.Letter) :=
  (cells.foldl (Cutting.step separators) .start).close.done.reverse

/-- The text of a field. -/
def fieldText (letters : List Pattern.Letter) : String :=
  String.ofList (letters.map Prod.fst)

end FunctionHost.Rehearsal.Shell
