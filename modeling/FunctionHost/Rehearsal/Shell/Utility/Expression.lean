-- SUMMARY: Utilities that compute: expressions, sequences of numbers, factors and spans of time.
import FunctionHost.Rehearsal.Shell.Format
import FunctionHost.Rehearsal.Shell.Regex
import FunctionHost.Rehearsal.Shell.Utility.Request

/-! # Computing

These utilities take numbers and texts as words. A value of an expression counts as false if it is
empty or a zero, and the status of the expression tells that. -/

namespace FunctionHost.Rehearsal.Shell

/-! ## Expressions -/

/-- What an expression of words comes to. -/
inductive Value where
  | text (s : String)
  | bad
  deriving Repr, DecidableEq

namespace Value

/-- A number as a value. -/
def ofInt (n : Int) : Value :=
  .text (toString n)

/-- Whether a value counts as false. -/
def isNull : Value → Bool
  | .text s =>
    let digits := match s.toList with
      | '-' :: rest => rest
      | cs => cs
    s.isEmpty || !digits.isEmpty && digits.all (· = '0')
  | .bad => false

/-- The whole number that a text is: digits, perhaps with a minus before them. -/
def integer? (s : String) : Option Int :=
  let number (cs : List Char) : Option Int :=
    if !cs.isEmpty && cs.all Char.isDigit then some (Numeral.ofDigits 10 cs) else none
  match s.toList with
  | '-' :: rest => (number rest).map (- ·)
  | cs => number cs

/-- What a text comes to that is matched from its start: the part that the first group matched, or
    without groups the length of the match. -/
def ofMatch (text pattern : String) : Value :=
  match Regex.parse? false pattern.toList with
  | none => .bad
  | some r =>
    let cs := text.toList.toArray
    let found := (r.ends false cs ⟨0, []⟩).head?
    if r.hasGroup then
      match found.bind fun spot => spot.groups.lookup 1 with
      | some (first, last) => .text (String.ofList (cs.extract first last).toList)
      | none => .text ""
    else .ofInt ((found.map (·.place)).getD 0)

/-- What an operator between two words comes to. -/
def ofOperator (op a b : String) : Value :=
  let truth (b : Bool) : Value := .text (if b then "1" else "0")
  let compared (holds : Ordering → Bool) : Value :=
    match integer? a, integer? b with
    | some x, some y => truth (holds (compare x y))
    | _, _ => truth (holds (compare a b))
  let computed (f : Int → Int → Value) : Value :=
    match integer? a, integer? b with
    | some x, some y => f x y
    | _, _ => .bad
  match op with
  | "=" => compared (· == .eq)
  | "==" => compared (· == .eq)
  | "!=" => compared (· != .eq)
  | "<" => compared (· == .lt)
  | ">" => compared (· == .gt)
  | "<=" => compared (· != .gt)
  | ">=" => compared (· != .lt)
  | "+" => computed fun x y => .ofInt (x + y)
  | "-" => computed fun x y => .ofInt (x - y)
  | "*" => computed fun x y => .ofInt (x * y)
  | "/" => computed fun x y => if y = 0 then .bad else .ofInt (x.tdiv y)
  | "%" => computed fun x y => if y = 0 then .bad else .ofInt (x.tmod y)
  | ":" => ofMatch a b
  | _ => .bad

/-- A part of a text, from a position counted from one. -/
def part (text first length : String) : Value :=
  match integer? first, integer? length with
  | some n, some m =>
    if n ≤ 0 || m ≤ 0 then .text ""
    else .text (String.ofList ((text.toList.drop (n.toNat - 1)).take m.toNat))
  | _, _ => .text ""

/-- The operators between words, by how tightly they bind. -/
def levels : List (List String) :=
  [["|"], ["&"], ["=", "==", "!=", "<", ">", "<=", ">="], ["+", "-"], ["*", "/", "%"], [":"]]

/-- What two values come to with an operator between them. -/
def combine (op : String) (left right : Value) : Value :=
  match op, left, right with
  | "|", .text _, _ =>
    if !left.isNull then left else if right.isNull then .text "0" else right
  | "&", .text _, _ => if left.isNull then .text "0" else
      if right.isNull then .text "0" else if right = .bad then .bad else left
  | _, .text a, .text b => ofOperator op a b
  | _, _, _ => .bad

mutual

/-- What words come to up to the first operator that binds less tightly, and the words after. -/
def upTo : Nat → Nat → List String → Option (Value × List String)
  | 0, _, _ => none
  | n + 1, level, words =>
    match levels[level]? with
    | none => single n words
    | some ops => do
      let (first, rest) ← upTo n (level + 1) words
      onward n level ops first rest

/-- What words come to after a value, with operators of one level, and the words after. -/
def onward : Nat → Nat → List String → Value → List String → Option (Value × List String)
  | 0, _, _, _, _ => none
  | n + 1, level, ops, left, words =>
    match words with
    | op :: rest =>
      if ops.contains op then do
        let (right, rest) ← upTo n (level + 1) rest
        onward n level ops (combine op left right) rest
      else some (left, words)
    | [] => some (left, [])

/-- What a single word, a word with a name for what to do, or words in parentheses come to, and the
    words after. -/
def single : Nat → List String → Option (Value × List String)
  | 0, _ => none
  | n + 1, words =>
    match words with
    | "(" :: rest => do
      match ← upTo n 0 rest with
      | (value, ")" :: rest) => return (value, rest)
      | _ => none
    | ")" :: _ => none
    | "+" :: word :: rest => some (.text word, rest)
    | "length" :: rest => do
      let (value, rest) ← single n rest
      match value with
      | .text s => return (.ofInt s.length, rest)
      | .bad => return (.bad, rest)
    | "match" :: rest => do
      let (first, rest) ← single n rest
      let (second, rest) ← single n rest
      match first, second with
      | .text a, .text b => return (ofMatch a b, rest)
      | _, _ => return (.bad, rest)
    | "index" :: rest => do
      let (first, rest) ← single n rest
      let (second, rest) ← single n rest
      match first, second with
      | .text a, .text b =>
        let place : Nat := ((a.toList.findIdx? b.toList.contains).map (· + 1)).getD 0
        return (.ofInt place, rest)
      | _, _ => return (.bad, rest)
    | "substr" :: rest => do
      let (whole, rest) ← single n rest
      let (first, rest) ← single n rest
      let (length, rest) ← single n rest
      match whole, first, length with
      | .text s, .text a, .text b => return (part s a b, rest)
      | _, _, _ => return (.bad, rest)
    | s :: rest => some (.text s, rest)
    | [] => none

end

end Value

namespace Request

/-- What an expression of words comes to. It fails if the value counts as false. -/
def expr (r : Request) : Answer :=
  let words := if r.words.head? = some "--" then r.words.tail else r.words
  if words.isEmpty then r.complain 2 "missing operand"
  else if words = ["--help"] || words = ["--version"] then r.lines [r.name]
  else
    match Value.upTo (16 * words.length + 16) 0 words with
    | some (.text s, []) => r.answer (s.toList ++ ['\n']) (if (Value.text s).isNull then 1 else 0)
    | some (.bad, []) => r.complain 2 "non-integer argument"
    | _ => r.complain 2 "syntax error"

/-! ## Numbers -/

/-- A number with a fraction, as a number of units of a power of ten, and that power. -/
def decimal? (text : String) : Option (Int × Nat) :=
  let (negative, cs) := match text.toList with
    | '-' :: rest => (true, rest)
    | '+' :: rest => (false, rest)
    | cs => (false, cs)
  let whole := cs.takeWhile Char.isDigit
  let (fraction, rest) := match cs.drop whole.length with
    | '.' :: rest => (rest.takeWhile Char.isDigit, rest.dropWhile Char.isDigit)
    | rest => ([], rest)
  if whole.isEmpty && fraction.isEmpty || !rest.isEmpty then none
  else
    let n : Int := Numeral.ofDigits 10 (whole ++ fraction)
    some (if negative then -n else n, fraction.length)

/-- Ten multiplied with itself so often. -/
def powerOfTen (n : Nat) : Nat :=
  (List.replicate n 10).foldl (· * ·) 1

/-- The text of a number of units of a power of ten. -/
def decimalText (scale : Nat) (n : Int) : String :=
  let digits := (toString n.natAbs).toList.leftpad (scale + 1) '0'
  let whole := String.ofList (digits.take (digits.length - scale))
  let fraction := String.ofList (digits.drop (digits.length - scale))
  (if n < 0 then "-" else "") ++ whole ++ (if scale = 0 then "" else "." ++ fraction)

/-- A text for a number with zeros before its digits, up to a length. -/
def zerosBefore (width : Nat) (text : String) : String :=
  match text.toList with
  | '-' :: rest => String.ofList ('-' :: rest.leftpad (width - 1) '0')
  | cs => String.ofList (cs.leftpad width '0')

/-- The numbers from one to another. -/
def seq (r : Request) : Answer :=
  match r.operands.mapM decimal? with
  | none => r.refuse "invalid floating point argument"
  | some numbers =>
    let scale := (numbers.dropLast.map Prod.snd).foldl max 0
    let fine := (numbers.map Prod.snd).foldl max 0
    let scaled := numbers.map fun (n, s) => n * (powerOfTen (fine - s) : Int)
    let one : Int := powerOfTen fine
    let (first, step, last) : Int × Int × Int := match scaled with
      | [last] => (one, one, last)
      | [first, last] => (first, one, last)
      | first :: step :: last :: _ => (first, step, last)
      | [] => (one, one, 0)
    if step = 0 then r.refuse "invalid Zero increment value"
    else
      let count :=
        if 0 < step then ((last - first).fdiv step + 1).toNat
        else ((first - last).fdiv (-step) + 1).toNat
      let texts := (List.range count).map fun (i : Nat) =>
        decimalText scale ((first + step * (i : Int)).fdiv (powerOfTen (fine - scale) : Int))
      let width := (texts.map String.length).foldl max 0
      let texts := if r.has 'w' then texts.map (zerosBefore width) else texts
      let texts := match r.value? 'f' with
        | some format => texts.map fun text => String.ofList (Format.print true format [text]).1
        | none => texts
      let separator := (r.value? 's').getD "\n"
      if texts.isEmpty then r.answer [] 0
      else r.answer ((String.intercalate separator texts).toList ++ ['\n']) 0

/-- The prime factors of a number from a divisor on. -/
def factorsFrom (fuel divisor n : Nat) : List Nat :=
  match fuel with
  | 0 => [n]
  | fuel + 1 =>
    if n < 2 then []
    else if n < divisor * divisor then [n]
    else if n % divisor = 0 then divisor :: factorsFrom fuel divisor (n / divisor)
    else factorsFrom fuel (divisor + 1) n

/-- The prime factors of numbers. -/
def factor (r : Request) : Answer :=
  let words := if r.operands.isEmpty then
      (r.input.splitOn '\n').flatMap fun line => (String.ofList line).splitOn " "
    else r.operands
  let words := words.filter (!·.isEmpty)
  let number? (word : String) : Option Nat :=
    let digits := if word.startsWith "+" then word.toList.drop 1 else word.toList
    if !digits.isEmpty && digits.all Char.isDigit then some (Numeral.ofDigits 10 digits) else none
  let good := words.filterMap number?
  let output := good.map fun n =>
    String.intercalate " " ((toString n ++ ":") :: (factorsFrom 1000000 2 n).map toString)
  { r.lines output with status := if good.length = words.length then 0 else 1 }

/-- How long a number of seconds with a fraction and a unit is, in milliseconds. -/
def millis? (text : String) : Option Nat :=
  let number := text.toList.takeWhile fun c => c.isDigit || c = '.'
  let unit? : Option Nat :=
    match text.toList.drop number.length with
    | [] => some 1000
    | ['s'] => some 1000
    | ['m'] => some 60000
    | ['h'] => some 3600000
    | ['d'] => some 86400000
    | _ => none
  match decimal? (String.ofList number), unit? with
  | some (n, scale), some unit => some (n.toNat * unit / powerOfTen scale)
  | _, _ => none

/-- Waits. -/
def sleep (r : Request) : Answer :=
  match r.operands.mapM millis? with
  | some spans => { r.answer [] 0 with millis := spans.foldl (· + ·) 0 }
  | none => r.refuse "invalid time interval"

end Request

end FunctionHost.Rehearsal.Shell
