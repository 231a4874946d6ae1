-- SUMMARY: Tests of files, texts and numbers, with connectives.
import FunctionHost.Rehearsal.Host.Tree
import FunctionHost.Rehearsal.Shell.Numeral

/-! # Tests

A test is a row of words. Up to four words are read by their number, and more of them as
alternatives of joint conditions. A word in the place of an operand is one even if it looks like an
operator. -/

namespace FunctionHost.Rehearsal.Shell.Test

/-- Why a test says neither yes nor no. -/
inductive Problem where
  | malformed
  | notANumber (text : String)
  deriving Repr, DecidableEq

/-- The operators in front of one operand. -/
def unary : List String :=
  ["-r", "-w", "-x", "-e", "-f", "-d", "-c", "-b", "-p", "-u", "-g", "-k", "-s", "-t", "-z", "-n",
    "-h", "-O", "-G", "-L", "-S"]

/-- The operators between two operands. -/
def binary : List String :=
  ["=", "!=", "<", ">", "-eq", "-ne", "-ge", "-gt", "-le", "-lt", "-nt", "-ot", "-ef"]

/-- A word as the operator that it is another name for. -/
def operatorName (word : String) : String :=
  if word = "==" then "=" else word

/-- What a test looks at besides its words: the files of the host from a directory, and which
    descriptors are terminals. -/
structure View where
  tree : Host.Tree
  here : Host.Place

/-- What an operator says of one operand. -/
def View.unary (view : View) (op operand : String) : Except Problem Bool :=
  let node := (view.tree.open? view.here operand).toOption.map Prod.snd
  match op with
  | "-z" => .ok operand.isEmpty
  | "-n" => .ok !operand.isEmpty
  | "-t" =>
    match Numeral.decimal? operand with
    | some _ => .ok false
    | none => .error (.notANumber operand)
  | "-d" => .ok (node matches some .directory)
  | "-f" => .ok (node matches some (.file _ _) | some (.program _))
  | "-s" =>
    match node with
    | some (.file content _) => .ok !content.isEmpty
    | some .void => .ok false
    | other => .ok other.isSome
  | "-x" => .ok (node matches some .directory | some (.program _) | some (.file _ true))
  | "-c" => .ok (node matches some .void)
  | "-b" => .ok false
  | "-p" => .ok false
  | "-u" => .ok false
  | "-g" => .ok false
  | "-k" => .ok false
  | "-S" => .ok false
  | "-h" => .ok (isLink operand)
  | "-L" => .ok (isLink operand)
  | _ => .ok node.isSome
where
  /-- Whether the last name of a path is a link. -/
  isLink (path : String) : Bool :=
    let names := Host.Tree.pathNames path
    let start := if Host.Tree.isAbsolute path then [] else view.here
    match names.getLast?, view.tree.walk start names.dropLast with
    | some name, .ok parent => (view.tree.node? (parent ++ [name]) matches some (.link _ _))
    | _, _ => false

/-- What an operator says of two operands. -/
def View.binary (view : View) (op left right : String) : Except Problem Bool := do
  let numbers (holds : Int → Int → Bool) : Except Problem Bool :=
    match Numeral.decimal? left, Numeral.decimal? right with
    | some a, some b => .ok (holds a b)
    | none, _ => .error (.notANumber left)
    | _, none => .error (.notANumber right)
  let places := (view.tree.find view.here left, view.tree.find view.here right)
  match op with
  | "=" => return left = right
  | "!=" => return left ≠ right
  | "<" => return left < right
  | ">" => return right < left
  | "-eq" => numbers fun a b => a = b
  | "-ne" => numbers fun a b => a ≠ b
  | "-ge" => numbers fun a b => b ≤ a
  | "-gt" => numbers fun a b => b < a
  | "-le" => numbers fun a b => a ≤ b
  | "-lt" => numbers fun a b => a < b
  | "-ef" =>
    match places with
    | (.ok a, .ok b) => return a = b
    | _ => return false
  | "-nt" =>
    match places with
    | (.ok _, .error _) => return true
    | _ => return false
  | _ =>
    match places with
    | (.error _, .ok _) => return true
    | _ => return false

/-- What a word is in front of others: an operator in front of an operand, or an operand. -/
inductive Role where
  | unary
  | binary
  | not
  | opening
  | closing
  | and
  | or
  | operand
  | nothing
  deriving Repr, DecidableEq

/-- The role of the first of some words. -/
def roleOf (words : List String) : Role :=
  match words with
  | [] => .nothing
  | word :: rest =>
    if Test.unary.contains word then
      match rest with
      | [] => .operand
      | next :: _ :: _ => if Test.binary.contains next then .operand else .unary
      | _ => .unary
    else if Test.binary.contains word then .binary
    else
      match word with
      | "!" => .not
      | "(" => if rest.isEmpty then .operand else .opening
      | ")" => .closing
      | "-a" => .and
      | "-o" => .or
      | _ => .operand

mutual

/-- What alternatives say, and the words after them. -/
def View.alternatives (view : View) : Nat → List String → Except Problem (Bool × List String)
  | 0, _ => .error .malformed
  | n + 1, words => do
    let (a, rest) ← view.joint n words
    if roleOf rest = .or then
      let (b, rest) ← view.alternatives n rest.tail
      return (a || b, rest)
    else return (a, rest)

/-- What joint conditions say, and the words after them. -/
def View.joint (view : View) : Nat → List String → Except Problem (Bool × List String)
  | 0, _ => .error .malformed
  | n + 1, words => do
    let (a, rest) ← view.negated n words
    if roleOf rest = .and then
      let (b, rest) ← view.joint n rest.tail
      return (a && b, rest)
    else return (a, rest)

/-- What a condition says that may be negated, and the words after it. -/
def View.negated (view : View) : Nat → List String → Except Problem (Bool × List String)
  | 0, _ => .error .malformed
  | n + 1, words => do
    if roleOf words = .not && words.length > 1 then
      let (a, rest) ← view.negated n words.tail
      return (!a, rest)
    else if roleOf words = .not then return (true, [])
    else view.single n words

/-- What a single condition says, and the words after it. -/
def View.single (view : View) : Nat → List String → Except Problem (Bool × List String)
  | 0, _ => .error .malformed
  | n + 1, words => do
    match roleOf words, words with
    | .nothing, _ => return (false, [])
    | .opening, _ :: rest =>
      if roleOf rest = .closing then return (false, rest.tail)
      let (a, rest) ← view.alternatives n rest
      if roleOf rest = .closing then return (a, rest.tail) else throw .malformed
    | .unary, op :: operand :: rest => return (← view.unary op operand, rest)
    | .unary, _ => throw .malformed
    | _, left :: op :: rest =>
      if roleOf (op :: rest) = .binary then
        match rest with
        | right :: rest => return (← view.binary op left right, rest)
        | [] => throw .malformed
      else return (!left.isEmpty, op :: rest)
    | _, [left] => return (!left.isEmpty, [])
    | _, [] => return (false, [])

end

/-- What a row of words says. -/
def View.holds (view : View) (words : List String) : Except Problem Bool := do
  let inParentheses : Bool := words.head? = some "(" && words.getLast? = some ")"
  let whole (words : List String) : Except Problem Bool := do
    match ← view.alternatives (8 * words.length + 8) words with
    | (answer, []) => return answer
    | _ => throw .malformed
  match words with
  | [] => return false
  | [a, op, b] =>
    if Test.binary.contains op then view.binary op a b
    else if inParentheses then whole [op]
    else if a = "!" then return !(← whole [op, b])
    else whole words
  | [a, b, c, d] =>
    if inParentheses then whole [b, c]
    else if a = "!" then return !(← whole [b, c, d])
    else whole [a, b, c, d]
  | _ => whole words

end FunctionHost.Rehearsal.Shell.Test
