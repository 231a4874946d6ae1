-- SUMMARY: Regular expressions in their basic and extended notation, and where they match.
import FunctionHost.Rehearsal.Shell.Numeral
import FunctionHost.Rehearsal.Shell.Pattern

/-! # Regular expressions

A regular expression matches a part of a text. Of several parts it is the one that starts first, and
of those the longest. A group remembers the part of the text that it matched last. In the basic
notation the signs for groups, counts and alternatives have a backslash before them, in the extended
one they have none. -/

namespace FunctionHost.Rehearsal.Shell

/-- A regular expression. -/
inductive Regex where
  | nothing
  | one (wildcard : Wildcard)
  | start
  | finish
  | edge (opening closing : Bool)
  | inside
  | both (a b : Regex)
  | either (a b : Regex)
  | times (least : Nat) (most : Option Nat) (a : Regex)
  | group (number : Nat) (a : Regex)
  | again (number : Nat)
  deriving Repr, DecidableEq

namespace Regex

/-! ## Matching -/

/-- Where in a text a match has come to, and which parts its groups matched. -/
structure Spot where
  place : Nat
  groups : List (Nat × Nat × Nat)
  deriving Repr, DecidableEq

/-- Spots without repeated places, those further on first. -/
def furthestFirst (spots : List Spot) : List Spot :=
  let ordered := spots.mergeSort fun a b => b.place ≤ a.place
  ordered.foldr (fun spot rest => spot :: rest.filter (·.place ≠ spot.place)) []

/-- The spots to which a step leads that is repeated so often, from some spots on. -/
def repeated (step : Spot → List Spot) (fuel least : Nat) (most : Option Nat)
    (front done : List Spot) : List Spot :=
  match fuel with
  | 0 => done
  | fuel + 1 =>
    let done := if least = 0 then done ++ front else done
    if most = some 0 || front.isEmpty then done
    else
      let next := furthestFirst (front.flatMap step)
      let fresh :=
        if least = 0 then next.filter fun spot => done.all (·.place ≠ spot.place) else next
      repeated step fuel (least - 1) (most.map (· - 1)) fresh done

/-- Whether a character is part of a word. -/
def isOfWord (c : Char) : Bool :=
  c.isAlphanum || c = '_'

/-- Whether a character matches, in any letter case if asked for. -/
def matchesIn (anyCase : Bool) (wildcard : Wildcard) (c : Char) : Bool :=
  Pattern.matchesChar c wildcard
    || anyCase && (Pattern.matchesChar c.toLower wildcard || Pattern.matchesChar c.toUpper wildcard)

/-- The spots to which an expression leads from a spot, the furthest first. -/
def ends (anyCase : Bool) (text : Array Char) : Regex → Spot → List Spot
  | .nothing, s => [s]
  | .one wildcard, s =>
    if (text[s.place]?).any (matchesIn anyCase wildcard) then [{ s with place := s.place + 1 }]
    else []
  | .start, s => if s.place = 0 then [s] else []
  | .finish, s => if s.place = text.size then [s] else []
  | .edge opening closing, s =>
    let before := s.place ≠ 0 && (text[s.place - 1]?).any isOfWord
    let after := (text[s.place]?).any isOfWord
    if opening && !before && after || closing && before && !after then [s] else []
  | .inside, s =>
    let before := s.place ≠ 0 && (text[s.place - 1]?).any isOfWord
    if before = (text[s.place]?).any isOfWord then [s] else []
  | .both a b, s => furthestFirst ((ends anyCase text a s).flatMap (ends anyCase text b))
  | .either a b, s => furthestFirst (ends anyCase text a s ++ ends anyCase text b s)
  | .times least most a, s =>
    furthestFirst (repeated (ends anyCase text a) (text.size + least + 2) least most [s] [])
  | .group number a, s =>
    (ends anyCase text a s).map fun t =>
      { t with groups := (number, s.place, t.place) :: t.groups.filter (·.1 ≠ number) }
  | .again number, s =>
    match s.groups.lookup number with
    | some (first, last) =>
      let part := text.extract first last
      if text.extract s.place (s.place + part.size) = part then
        [{ s with place := s.place + part.size }]
      else []
    | none => []

/-- The first and longest match from a place on: where it starts, and the spot at its end. -/
def find? (r : Regex) (anyCase : Bool) (text : Array Char) (place : Nat) : Option (Nat × Spot) :=
  ((List.range (text.size + 1)).drop place).findSome? fun first =>
    ((r.ends anyCase text ⟨first, []⟩).head?).map (first, ·)

/-- Whether an expression matches all of a text. -/
def matchesAll (r : Regex) (anyCase : Bool) (text : Array Char) : Bool :=
  (r.ends anyCase text ⟨0, []⟩).any (·.place = text.size)

/-- Whether there are groups in an expression. -/
def hasGroup : Regex → Bool
  | .group _ _ => true
  | .both a b => a.hasGroup || b.hasGroup
  | .either a b => a.hasGroup || b.hasGroup
  | .times _ _ a => a.hasGroup
  | _ => false

/-! ## Notation -/

/-- How often something may come: at least, and at most if there is an end to it. -/
abbrev Count := Nat × Option Nat

/-- A count in braces, and what follows it. -/
def count? (extended : Bool) (cs : List Char) : Option (Count × List Char) :=
  let least := cs.takeWhile Char.isDigit
  let rest := cs.drop least.length
  let (count, rest) : Count × List Char :=
    match rest with
    | ',' :: rest =>
      let most := rest.takeWhile Char.isDigit
      ((Numeral.ofDigits 10 least, if most.isEmpty then none else some (Numeral.ofDigits 10 most)),
        rest.drop most.length)
    | _ => ((Numeral.ofDigits 10 least, some (Numeral.ofDigits 10 least)), rest)
  if least.isEmpty && rest = cs then none
  else if count.2.any (· < count.1) then none
  else
    match extended, rest with
    | true, '\x7d' :: rest => some (count, rest)
    | false, '\\' :: '\x7d' :: rest => some (count, rest)
    | _, _ => none

/-- How the notation of a sign starts: whether the text starts with the sign, and what follows. -/
def afterSign? (extended : Bool) (sign : Char) (cs : List Char) : Option (List Char) :=
  match extended, cs with
  | true, c :: rest => if c = sign then some rest else none
  | false, '\\' :: c :: rest => if c = sign then some rest else none
  | _, _ => none

/-- The counts that follow an expression put to it, and what follows them. -/
def counted (extended : Bool) (fuel : Nat) (r : Regex) (cs : List Char) :
    Option (Regex × List Char) :=
  match fuel with
  | 0 => none
  | fuel + 1 =>
    match cs with
    | '*' :: rest => counted extended fuel (.times 0 none r) rest
    | _ =>
      match afterSign? extended '+' cs, afterSign? extended '?' cs,
          afterSign? extended '\x7b' cs with
      | some rest, _, _ => counted extended fuel (.times 1 none r) rest
      | _, some rest, _ => counted extended fuel (.times 0 (some 1) r) rest
      | _, _, some rest => do
        let ((least, most), rest) ← count? extended rest
        counted extended fuel (.times least most r) rest
      | _, _, _ => some (r, cs)

/-- The sets of characters that have a letter after a backslash. -/
def letterSet? (c : Char) : Option Wildcard :=
  let word : List CharRange := [('a', 'z'), ('A', 'Z'), ('0', '9'), ('_', '_')]
  let space : List CharRange := [('\t', '\x0d'), (' ', ' ')]
  match c with
  | 'w' => some (.among false word)
  | 'W' => some (.among true word)
  | 's' => some (.among false space)
  | 'S' => some (.among true space)
  | _ => none

/-- The expression that a letter after a backslash stands for. -/
def escaped (c : Char) : Regex :=
  match letterSet? c with
  | some set => .one set
  | none =>
    match c with
    | 'b' => .edge true true
    | '<' => .edge true false
    | '>' => .edge false true
    | 'B' => .inside
    | 'n' => .one (.exactly '\n')
    | 't' => .one (.exactly '\t')
    | _ => if c.isDigit && c ≠ '0' then .again (c.toNat - '0'.toNat) else .one (.exactly c)

/-- Whether a branch ends here. -/
def branchEnds (extended : Bool) (depth : Nat) (cs : List Char) : Bool :=
  cs.isEmpty || (afterSign? extended '|' cs).isSome
    || (afterSign? extended ')' cs).isSome && (0 < depth || !extended)

mutual

/-- The alternatives up to the end of a group or of the text, the number of groups so far, and what
    follows. -/
def alternatives (extended : Bool) : Nat → Nat → Nat → List Char → Option (Regex × Nat × List Char)
  | 0, _, _, _ => none
  | fuel + 1, depth, groups, cs => do
    let (first, groups, rest) ← branch extended fuel depth groups true .nothing cs
    match afterSign? extended '|' rest with
    | some rest =>
      let (second, groups, rest) ← alternatives extended fuel depth groups rest
      return (.either first second, groups, rest)
    | none => return (first, groups, rest)

/-- The expressions up to the end of a branch, put behind those before them. -/
def branch (extended : Bool) :
    Nat → Nat → Nat → Bool → Regex → List Char → Option (Regex × Nat × List Char)
  | 0, _, _, _, _, _ => none
  | fuel + 1, depth, groups, first, before, cs =>
    if branchEnds extended depth cs then some (before, groups, cs)
    else do
      let (next, groups, rest) ← single extended fuel depth groups first cs
      let isStart := next = .start
      let (next, rest) ←
        if isStart && !extended then some (next, rest)
        else counted extended (rest.length + 1) next rest
      let all := if before = .nothing then next else .both before next
      branch extended fuel depth groups (first && isStart) all rest

/-- A single expression without a count, and what follows it. -/
def single (extended : Bool) :
    Nat → Nat → Nat → Bool → List Char → Option (Regex × Nat × List Char)
  | 0, _, _, _, _ => none
  | fuel + 1, depth, groups, first, cs =>
    match afterSign? extended '(' cs with
    | some rest => do
      let number := groups + 1
      let (inner, groups, rest) ← alternatives extended fuel (depth + 1) number rest
      let rest ← afterSign? extended ')' rest
      return (.group number inner, groups, rest)
    | none =>
      match cs with
      | [] => none
      | '.' :: rest => some (.one .one, groups, rest)
      | '*' :: rest => some (if extended then .nothing else .one (.exactly '*'), groups, rest)
      | '[' :: rest =>
        (Pattern.set? (rest.map fun c => (c, c = '!'))).map fun (set, after) =>
          (.one set, groups, after.map Prod.fst)
      | '\\' :: c :: rest => some (escaped c, groups, rest)
      | ['\\'] => none
      | '^' :: rest =>
        some (if extended || first then .start else .one (.exactly '^'), groups, rest)
      | '$' :: rest =>
        let isFinish := extended || branchEnds extended depth rest
        some (if isFinish then .finish else .one (.exactly '$'), groups, rest)
      | c :: rest => some (.one (.exactly c), groups, rest)

end

/-- The regular expression that a text denotes, if it is one. -/
def parse? (extended : Bool) (cs : List Char) : Option Regex :=
  match alternatives extended (4 * cs.length + 8) 0 0 cs with
  | some (r, _, []) => some r
  | _ => none

/-- An expression that matches a text itself. -/
def ofText (cs : List Char) : Regex :=
  cs.foldr (fun c rest => .both (.one (.exactly c)) rest) .nothing

end Regex

end FunctionHost.Rehearsal.Shell
