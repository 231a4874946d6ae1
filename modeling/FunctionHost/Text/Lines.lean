-- SUMMARY: Splitting a text into lines at line feeds.

/-! # Lines

A line ends at a line feed, and one carriage return right before that line feed belongs to the
ending. What follows the last line feed is a line only if it is not empty. -/

namespace FunctionHost.Text.Lines

/-- A line without the carriage return at its end, if it has one; `reversed` is the line read
    backwards. -/
def chop (reversed : List Char) : List Char :=
  match reversed with
  | '\r' :: earlier => earlier.reverse
  | _ => reversed.reverse

/-- The lines of a text; `done` holds the lines already found and `line` the characters of the
    current one, both backwards. -/
def splitFrom (done : List (List Char)) (line : List Char) : List Char → List (List Char)
  | [] => if line.isEmpty then done.reverse else (line.reverse :: done).reverse
  | c :: rest =>
    if c = '\n' then splitFrom (chop line :: done) [] rest
    else splitFrom done (c :: line) rest

/-- The lines of a text, in order. -/
def split (text : List Char) : List (List Char) :=
  splitFrom [] [] text

end FunctionHost.Text.Lines
