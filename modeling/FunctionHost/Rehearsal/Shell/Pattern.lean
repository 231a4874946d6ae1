-- SUMMARY: Patterns with wildcards and sets of characters, and which texts they match.
import FunctionHost.Rehearsal.Shell.Script

/-! # Patterns

In a pattern an asterisk stands for any text, a question mark for any character, and brackets for
one of the characters in them. A quoted character stands for itself. -/

namespace FunctionHost.Rehearsal.Shell

/-- What may stand in brackets: the characters from one to another. -/
abbrev CharRange := Char × Char

/-- An element of a pattern. -/
inductive Wildcard where
  | exactly (c : Char)
  | one
  | many
  | among (negated : Bool) (ranges : List CharRange)
  deriving Repr, DecidableEq

namespace Pattern

/-- A character of a pattern, and whether it is quoted. -/
abbrev Letter := Char × Bool

/-- The named classes of characters, as ranges. -/
def classes : List (String × List CharRange) :=
  [ ("alpha", [('a', 'z'), ('A', 'Z')]), ("digit", [('0', '9')]),
    ("alnum", [('a', 'z'), ('A', 'Z'), ('0', '9')]), ("upper", [('A', 'Z')]),
    ("lower", [('a', 'z')]), ("space", [('\t', '\x0d'), (' ', ' ')]),
    ("blank", [(' ', ' '), ('\t', '\t')]), ("xdigit", [('0', '9'), ('a', 'f'), ('A', 'F')]),
    ("punct", [('!', '/'), (':', '@'), ('[', '\x60'), ('\x7b', '~')]),
    ("print", [(' ', '~')]), ("graph", [('!', '~')]),
    ("cntrl", [('\x00', '\x1f'), ('\x7f', '\x7f')]) ]

/-- The ranges of a named class at the start of a text, and what follows its name. -/
def class? (letters : List Letter) : Option (List CharRange × List Letter) :=
  classes.findSome? fun (name, ranges) =>
    let written := ("[:" ++ name ++ ":]").toList
    if written.isPrefixOf (letters.map Prod.fst) then some (ranges, letters.drop written.length)
    else none

/-- The ranges in brackets up to the closing one, which may come first as a character of its own,
    and what follows them. -/
def bracketed (fuel : Nat) (first : Bool) (done : List CharRange) (letters : List Letter) :
    Option (List CharRange × List Letter) :=
  match fuel with
  | 0 => none
  | fuel + 1 =>
    match class? letters with
    | some (ranges, rest) => bracketed fuel false (ranges ++ done) rest
    | none =>
      match letters with
      | (']', false) :: rest =>
        if first then bracketed fuel false ((']', ']') :: done) rest else some (done, rest)
      | (a, _) :: ('-', false) :: (b, q) :: rest =>
        if b = ']' && !q then bracketed fuel false ((a, a) :: done) (('-', true) :: (b, q) :: rest)
        else bracketed fuel false ((a, b) :: done) rest
      | (a, _) :: rest => bracketed fuel false ((a, a) :: done) rest
      | [] => none

/-- The set in brackets that comes next, after the opening one, and what follows it. -/
def set? (letters : List Letter) : Option (Wildcard × List Letter) :=
  let (negated, inside) :=
    match letters with
    | ('!', false) :: rest => (true, rest)
    | ('^', false) :: rest => (true, rest)
    | _ => (false, letters)
  (bracketed (inside.length + 1) true [] inside).map fun (ranges, rest) =>
    (.among negated ranges, rest)

/-- The elements of a pattern. -/
def elements (fuel : Nat) (letters : List Letter) : List Wildcard :=
  match fuel with
  | 0 => []
  | fuel + 1 =>
    match letters with
    | [] => []
    | (c, true) :: rest => .exactly c :: elements fuel rest
    | ('*', false) :: rest => .many :: elements fuel rest
    | ('?', false) :: rest => .one :: elements fuel rest
    | ('[', false) :: rest =>
      match set? rest with
      | some (set, after) => set :: elements fuel after
      | none => .exactly '[' :: elements fuel rest
    | (c, false) :: rest => .exactly c :: elements fuel rest

/-- The elements of a pattern. -/
def ofLetters (letters : List Letter) : List Wildcard :=
  elements letters.length letters

/-- Whether an element matches a character. -/
def matchesChar (c : Char) : Wildcard → Bool
  | .exactly d => c = d
  | .one => true
  | .many => false
  | .among negated ranges => ranges.any (fun (a, b) => a ≤ c && c ≤ b) != negated

/-- Whether a pattern matches a text. -/
def matchesText : List Wildcard → List Char → Bool
  | [], cs => cs.isEmpty
  | .many :: rest, [] => matchesText rest []
  | .many :: rest, c :: cs => matchesText rest (c :: cs) || matchesText (.many :: rest) cs
  | _ :: _, [] => false
  | element :: rest, c :: cs => matchesChar c element && matchesText rest cs
termination_by pattern cs => pattern.length + cs.length

/-- Whether anything in a pattern is more than a character that stands for itself. -/
def isWild (letters : List Letter) : Bool :=
  (ofLetters letters).any fun element => !(element matches .exactly _)

/-- What remains of a text without the shortest or longest start that a pattern matches. -/
def trimStart (longest : Bool) (pattern : List Wildcard) (cs : List Char) : List Char :=
  let cuts := List.range (cs.length + 1)
  match (if longest then cuts.reverse else cuts).find? fun n => matchesText pattern (cs.take n) with
  | some n => cs.drop n
  | none => cs

/-- What remains of a text without the shortest or longest end that a pattern matches. -/
def trimEnd (longest : Bool) (pattern : List Wildcard) (cs : List Char) : List Char :=
  let cuts := List.range (cs.length + 1)
  match (if longest then cuts else cuts.reverse).find? fun n => matchesText pattern (cs.drop n) with
  | some n => cs.take n
  | none => cs

/-- The length of the longest part at the start of a text that a pattern matches. -/
def longestAtStart? (pattern : List Wildcard) (cs : List Char) : Option Nat :=
  (List.range (cs.length + 1)).reverse.find? fun n => matchesText pattern (cs.take n)

/-- A text with what a pattern matches in it replaced by another text. -/
def replace (extent : Extent) (pattern : List Wildcard) (new : List Char) (cs : List Char) :
    List Char :=
  if pattern.isEmpty && extent ≠ .atStart && extent ≠ .atEnd then cs
  else
    match extent with
    | .atStart =>
      match longestAtStart? pattern cs with
      | some n => new ++ cs.drop n
      | none => cs
    | .atEnd =>
      match (List.range (cs.length + 1)).find? fun n => matchesText pattern (cs.drop n) with
      | some n => cs.take n ++ new
      | none => cs
    | _ => walk (cs.length + 1) cs
where
  /-- The text with its first match replaced, or with all of them. -/
  walk : Nat → List Char → List Char
    | 0, cs => cs
    | _ + 1, [] => []
    | fuel + 1, c :: rest =>
      match longestAtStart? pattern (c :: rest) with
      | some (n + 1) =>
        let after := (c :: rest).drop (n + 1)
        new ++ (if extent = .all then walk fuel after else after)
      | _ => c :: walk fuel rest

end Pattern

end FunctionHost.Rehearsal.Shell
