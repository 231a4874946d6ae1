-- SUMMARY: Conditions of the extended language: whether they hold.
import FunctionHost.Rehearsal.Shell.Expand
import FunctionHost.Rehearsal.Shell.Regex
import FunctionHost.Rehearsal.Shell.Test

/-! # Conditions

A condition is about words that are expanded but never cut. A text may be compared with a pattern or
searched for a regular expression, of which quoted characters stand for themselves; numbers may be
expressions. The parts of a condition are looked at only as far as they matter. -/

namespace FunctionHost.Rehearsal.Shell.Act

/-- The text of a regular expression in which quoted letters stand for themselves. -/
def regexText (letters : List Pattern.Letter) : List Char :=
  letters.flatMap fun (c, quoted) =>
    if quoted && "\\^$.|?*+()[]\x7b\x7d".contains c then ['\\', c] else [c]

/-- Whether a regular expression is found in a text. What it and its groups match is kept in an
    array. -/
def searches (letters : List Pattern.Letter) (text : String) : Act Bool := do
  let cs := text.toList.toArray
  match Regex.parse? true (regexText letters) with
  | none => mistake 2 2 "invalid regular expression"
  | some r =>
    let found := r.find? false cs 0
    let part (first last : Nat) : String := String.ofList ((cs.extract first last).toList)
    let groups := found.elim [] fun (first, spot) =>
      (0, part first spot.place) :: spot.groups.map fun (i, a, b) => (i, part a b)
    update fun s =>
      { s with values := s.values.filter fun (other, _) => arrayOf other ≠ "BASH_REMATCH" }
    for (i, text) in groups do assign (Arithmetic.elementName "BASH_REMATCH" i) text
    return found.isSome

/-- Whether an operator holds of one text. -/
def holdsOfOne (op operand : String) : Act Bool := do
  let s ← session
  match op with
  | "-v" => return (s.value? operand).isSome
  | "-R" => return false
  | "-N" => return false
  | _ =>
    let view : Test.View := ⟨(← world).tree, s.here⟩
    match view.unary op operand with
    | .ok answer => return answer
    | .error _ => mistake 2 2 (operand ++ ": integer expression expected")

/-- Whether an operator holds of two texts. -/
def holdsOfTwo (op left right : String) : Act Bool := do
  let compare (holds : Int → Int → Bool) : Act Bool := do
    let a ← arithmetic left
    let b ← arithmetic right
    return holds a b
  match op with
  | "-eq" => compare fun a b => a = b
  | "-ne" => compare fun a b => a ≠ b
  | "-lt" => compare fun a b => a < b
  | "-le" => compare fun a b => a ≤ b
  | "-gt" => compare fun a b => b < a
  | "-ge" => compare fun a b => b ≤ a
  | _ =>
    let view : Test.View := ⟨(← world).tree, (← session).here⟩
    return match view.binary op left right with
      | .ok answer => answer
      | .error _ => false

/-- Whether a condition holds. -/
def holds (run : Runner) : Condition → Act Bool
  | .unary op operand => do holdsOfOne op (← text run operand)
  | .binary op left right => do
    let left ← text run left
    if op = "=~" then
      let letters := Cell.joined (← between) (← cellsOf run false right)
      searches letters left
    else if op = "=" || op = "==" then
      return Pattern.matchesText (← pattern run right) left.toList
    else if op = "!=" then
      return !Pattern.matchesText (← pattern run right) left.toList
    else holdsOfTwo op left (← text run right)
  | .not a => do return !(← holds run a)
  | .both a b => do if ← holds run a then holds run b else return false
  | .either a b => do if ← holds run a then return true else holds run b

end FunctionHost.Rehearsal.Shell.Act
