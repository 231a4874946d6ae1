-- SUMMARY: Words with braces, and the words that they stand for.
import FunctionHost.Rehearsal.Shell.Numeral
import FunctionHost.Rehearsal.Shell.Script

/-! # Braces

In the extended language a word with braces stands for several words: one for each of the texts
between the commas in the braces, or one for each member of a sequence of numbers or letters that is
named by its ends. Braces that are quoted, or that hold neither, are characters like any other. -/

namespace FunctionHost.Rehearsal.Shell.Part

/-- What is between braces, cut at its commas, and what follows the closing brace. Parts read before
    are in `done`, backwards, and some braces may be open in between. -/
def inBraces (opened : Nat) (done : List Part) :
    List Part → Option (List (List Part) × List Part)
  | [] => none
  | part :: rest =>
    match part, opened with
    | .plain '\x7d', 0 => some ([done.reverse], rest)
    | .plain '\x7d', opened + 1 => inBraces opened (part :: done) rest
    | .plain '\x7b', opened => inBraces (opened + 1) (part :: done) rest
    | .plain ',', 0 => (inBraces 0 [] rest).map fun (more, after) => (done.reverse :: more, after)
    | _, _ => inBraces opened (part :: done) rest

/-- Numbers from one to another with a step between them. -/
def numbersFrom (first last : Int) (step : Nat) : List Int :=
  let step := max step 1
  let count := (last - first).natAbs / step
  (List.range (count + 1)).map fun (i : Nat) =>
    if first ≤ last then first + i * step else first - i * step

/-- The text of a number with at least so many characters. -/
def withWidth (width : Nat) (n : Int) : String :=
  let digits := toString n.natAbs
  let sign := if n < 0 then "-" else ""
  sign ++ String.ofList (List.replicate (width - sign.length - digits.length) '0') ++ digits

/-- The members of a sequence that is named by its ends, and by a step if there is one. -/
def sequence? (text : String) : Option (List String) := do
  let (first, last, step) ← match text.splitOn ".." with
    | [first, last] => some (first, last, 1)
    | [first, last, step] => (Numeral.decimal? step).map fun n => (first, last, n.natAbs)
    | _ => none
  let isPadded (s : String) : Bool :=
    let digits := s.toList.dropWhile (· = '-')
    digits.head? = some '0' && digits.length > 1
  match Numeral.decimal? first, Numeral.decimal? last with
  | some a, some b =>
    let width := if isPadded first || isPadded last then max first.length last.length else 0
    return (numbersFrom a b step).map (withWidth width)
  | _, _ =>
    match first.toList, last.toList with
    | [a], [b] =>
      if a.isAlpha && b.isAlpha then
        return (numbersFrom a.toNat b.toNat step).map fun n => (Char.ofNat n.toNat).toString
      else failure
    | _, _ => failure

/-- The text of parts that are neither quoted nor expanded. -/
def plainText? (parts : List Part) : Option String :=
  (parts.mapM fun part =>
    match part with
    | Part.plain c => some c
    | _ => none).map String.ofList

/-- The words that a word stands for, with braces nested so deeply at most. -/
def alternativesIn : Nat → List Part → List (List Part)
  | 0, word => [word]
  | fuel + 1, word =>
    match word with
    | [] => [[]]
    | .plain '\x7b' :: rest =>
      let choices : Option (List (List Part) × List Part) :=
        match inBraces 0 [] rest with
        | some ([single], after) => do
          let members ← sequence? (← plainText? single)
          return (members.map fun text => text.toList.map .plain, after)
        | some (several, after) => some (several.flatMap (alternativesIn fuel), after)
        | none => none
      match choices with
      | some (choices, after) =>
        let tails := alternativesIn fuel after
        choices.flatMap fun choice => tails.map fun tail => choice ++ tail
      | none => (alternativesIn fuel rest).map fun tail => .plain '\x7b' :: tail
    | part :: rest => (alternativesIn fuel rest).map fun tail => part :: tail

/-- The words that a word stands for. -/
def alternatives (word : List Part) : List (List Part) :=
  if word.any fun part => part matches .plain '\x7b' then alternativesIn (word.length + 1) word
  else [word]

end FunctionHost.Rehearsal.Shell.Part
