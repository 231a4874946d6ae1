-- SUMMARY: Reading JSON text.
import FunctionHost.Json.Basic
import FunctionHost.Text.Percent

/-! # Reading JSON

The reader follows the grammar of JSON exactly: four kinds of blanks, no comments, no trailing
commas, nothing before or after the value but blanks. A numeral keeps its decimal value, and a
string with half a surrogate pair is accepted as one without text. -/

namespace FunctionHost.Json

/-- The characters that may stand between the parts of a value. -/
def isBlank (c : Char) : Bool :=
  c = ' ' || c = '\n' || c = '\t' || c = '\r'

/-- A text without the blanks at its start. -/
def skipBlanks (cs : List Char) : List Char :=
  cs.dropWhile isBlank

/-! ## Strings -/

/-- A part of a string: a character that stands for itself or has an escape letter, or a UTF-16
    code unit in hexadecimal. -/
inductive Part where
  | plain (c : Char)
  | coded (code : Nat)
  deriving Repr, DecidableEq

/-- The character of an escape letter. -/
def ofLetter? : Char → Option Char
  | '\x22' => some '\x22'
  | '\\' => some '\\'
  | '/' => some '/'
  | 'b' => some '\x08'
  | 'f' => some '\x0c'
  | 'n' => some '\n'
  | 'r' => some '\r'
  | 't' => some '\t'
  | _ => none

/-- The code unit of four hexadecimal digits. -/
def code? (a b c d : Char) : Option Nat := do
  return (((← Text.hexValue? a) * 16 + (← Text.hexValue? b)) * 16 + (← Text.hexValue? c)) * 16
    + (← Text.hexValue? d)

/-- The parts of a string up to its closing quote, and what follows it; `done` holds the parts
    already read, backwards. -/
def parts? (done : List Part) : List Char → Option (List Part × List Char)
  | [] => none
  | '\x22' :: rest => some (done.reverse, rest)
  | '\\' :: 'u' :: a :: b :: c :: d :: rest =>
    match code? a b c d with
    | some code => parts? (.coded code :: done) rest
    | none => none
  | '\\' :: letter :: rest =>
    match ofLetter? letter with
    | some c => parts? (.plain c :: done) rest
    | none => none
  | c :: rest => if c.toNat < 0x20 then none else parts? (.plain c :: done) rest

/-- Whether a code unit is the first half of a surrogate pair. -/
def isHighHalf (code : Nat) : Bool :=
  0xD800 ≤ code && code < 0xDC00

/-- Whether a code unit is the second half of a surrogate pair. -/
def isLowHalf (code : Nat) : Bool :=
  0xDC00 ≤ code && code < 0xE000

/-- The characters of a sequence of parts, if no half of a surrogate pair stands alone; `done`
    holds the characters already found, backwards. -/
def joinParts? (done : List Char) : List Part → Option (List Char)
  | [] => some done.reverse
  | .plain c :: rest => joinParts? (c :: done) rest
  | .coded high :: .coded low :: rest =>
    if isHighHalf high then
      if isLowHalf low then
        let c := Char.ofNat (0x10000 + (high - 0xD800) * 0x400 + (low - 0xDC00))
        joinParts? (c :: done) rest
      else none
    else if isLowHalf high then none
    else joinParts? (Char.ofNat high :: done) (.coded low :: rest)
  | .coded code :: rest =>
    if isHighHalf code || isLowHalf code then none
    else joinParts? (Char.ofNat code :: done) rest

/-- A string after its opening quote, and what follows its closing quote. -/
def quoted? (cs : List Char) : Option (Option String × List Char) :=
  (parts? [] cs).map fun (parts, rest) => ((joinParts? [] parts).map String.ofList, rest)

/-! ## Numbers -/

/-- The decimal digits at the start of a text, and what follows them. -/
def digits (cs : List Char) : List Char × List Char :=
  (cs.takeWhile Char.isDigit, cs.dropWhile Char.isDigit)

/-- The value of a sequence of decimal digits. -/
def ofDigits (ds : List Char) : Nat :=
  ds.foldl (fun n d => n * 10 + (d.toNat - 48)) 0

/-- The fraction after a point, if there is one. -/
def fraction? (cs : List Char) : Option (Option (List Char) × List Char) :=
  match cs with
  | '.' :: rest =>
    match digits rest with
    | ([], _) => none
    | (ds, after) => some (some ds, after)
  | _ => some (none, cs)

/-- The digits of an exponent. -/
def exponentDigits? (negative : Bool) (cs : List Char) : Option (Option Int × List Char) :=
  match digits cs with
  | ([], _) => none
  | (ds, after) =>
    let value : Int := ofDigits ds
    some (some (if negative then -value else value), after)

/-- The exponent after its letter, if there is one. -/
def exponent? (cs : List Char) : Option (Option Int × List Char) :=
  match cs with
  | c :: rest =>
    if c = 'e' || c = 'E' then
      match rest with
      | '-' :: after => exponentDigits? true after
      | '+' :: after => exponentDigits? false after
      | _ => exponentDigits? false rest
    else some (none, cs)
  | [] => some (none, cs)

/-- A number without its sign, and what follows it. -/
def magnitude? (negative : Bool) (cs : List Char) : Option (Numeral × List Char) := do
  let (whole, rest) := digits cs
  if whole.isEmpty || (whole.length ≠ 1 && whole.head? = some '0') then none
  let (fraction, rest) ← fraction? rest
  let (exponent, rest) ← exponent? rest
  let places := (fraction.getD []).length
  let coefficient := ofDigits (whole ++ fraction.getD [])
  let plain := fraction.isNone && exponent.isNone
  return (⟨negative, coefficient, if plain then none else some (exponent.getD 0 - places)⟩, rest)

/-- A number, and what follows it. -/
def numeral? (cs : List Char) : Option (Numeral × List Char) :=
  match cs with
  | '-' :: rest => magnitude? true rest
  | _ => magnitude? false cs

/-! ## Values -/

/-- What follows a given word at the start of a text. -/
def afterWord? : List Char → List Char → Option (List Char)
  | [], cs => some cs
  | w :: word, c :: cs => if w = c then afterWord? word cs else none
  | _ :: _, [] => none

mutual

/-- A value, and what follows it. The fuel bounds the number of nested steps. -/
def value? : Nat → List Char → Option (Json × List Char)
  | 0, _ => none
  | fuel + 1, cs =>
    match skipBlanks cs with
    | 'n' :: rest => (afterWord? "ull".toList rest).map ((.null, ·))
    | 't' :: rest => (afterWord? "rue".toList rest).map ((.bool true, ·))
    | 'f' :: rest => (afterWord? "alse".toList rest).map ((.bool false, ·))
    | '\x22' :: rest => (quoted? rest).map fun (text, after) => (.string text, after)
    | '[' :: rest =>
      match skipBlanks rest with
      | ']' :: after => some (.array [], after)
      | _ => elements? fuel [] rest
    | '\x7b' :: rest =>
      match skipBlanks rest with
      | '\x7d' :: after => some (.object [], after)
      | _ => members? fuel [] rest
    | cs => (numeral? cs).map fun (n, after) => (.number n, after)

/-- The elements of an array from one of them on, up to the closing bracket. -/
def elements? : Nat → List Json → List Char → Option (Json × List Char)
  | 0, _, _ => none
  | fuel + 1, done, cs =>
    match value? fuel cs with
    | some (v, after) =>
      match skipBlanks after with
      | ',' :: rest => elements? fuel (v :: done) rest
      | ']' :: rest => some (.array (v :: done).reverse, rest)
      | _ => none
    | none => none

/-- The members of an object from one of them on, up to the closing brace. -/
def members? : Nat → List (Option String × Json) → List Char → Option (Json × List Char)
  | 0, _, _ => none
  | fuel + 1, done, cs =>
    match skipBlanks cs with
    | '\x22' :: rest =>
      match quoted? rest with
      | some (name, after) =>
        match skipBlanks after with
        | ':' :: rest =>
          match value? fuel rest with
          | some (v, after) =>
            match skipBlanks after with
            | ',' :: rest => members? fuel ((name, v) :: done) rest
            | '\x7d' :: rest => some (.object ((name, v) :: done).reverse, rest)
            | _ => none
          | none => none
        | _ => none
      | none => none
    | _ => none

end

/-- The value of a JSON text. Between two characters read there are at most two nested steps, so
    twice the length of the text bounds their number. -/
def parse? (text : String) : Option Json :=
  let cs := text.toList
  match value? (2 * cs.length + 1) cs with
  | some (v, rest) => if (skipBlanks rest).isEmpty then some v else none
  | none => none

/-- The deepest nesting that a self-contained document may have. -/
def maxDepth : Nat := 127

/-- The value of a self-contained document: its strings have texts, its numbers are finite, and
    its nesting is bounded. -/
def document? (text : String) : Option Json :=
  (parse? text).filter fun v => v.isReadable && v.depth ≤ maxDepth

end FunctionHost.Json
