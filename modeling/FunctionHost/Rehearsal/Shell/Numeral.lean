-- SUMMARY: Whole numbers as scripts write them: signed, in base ten, eight or sixteen, of 64 bits.

/-! # Numerals

A script writes numbers with a sign and white space around them. In expressions a leading zero
announces base eight, and a zero with an x base sixteen. Numbers have 64 bits. -/

namespace FunctionHost.Rehearsal.Shell.Numeral

/-- The number of values of 64 bits. -/
def size : Nat := 18446744073709551616

/-- The largest number. -/
def largest : Int := 9223372036854775807

/-- The smallest number. -/
def smallest : Int := -9223372036854775808

/-- A number cut down to 64 bits. -/
def wrap (n : Int) : Int :=
  n.bmod size

/-- Whether a character is white space. -/
def isSpace (c : Char) : Bool :=
  c = ' ' || ('\t' ≤ c && c ≤ '\x0d')

/-- The value of a digit in any base. -/
def digit? (c : Char) : Option Nat :=
  if c.isDigit then some (c.toNat - '0'.toNat)
  else if 'a' ≤ c && c ≤ 'z' then some (c.toNat - 'a'.toNat + 10)
  else if 'A' ≤ c && c ≤ 'Z' then some (c.toNat - 'A'.toNat + 10)
  else none

/-- Whether a character is a digit in a base. -/
def isDigitIn (base : Nat) (c : Char) : Bool :=
  (digit? c).any (· < base)

/-- The number that digits in a base make. -/
def ofDigits (base : Nat) (cs : List Char) : Nat :=
  cs.foldl (fun n c => n * base + (digit? c).getD 0) 0

/-- The base of a number without sign, and its digits. -/
def based (cs : List Char) : Nat × List Char :=
  match cs with
  | '0' :: x :: d :: rest =>
    if (x = 'x' || x = 'X') && isDigitIn 16 d then (16, d :: rest) else (8, cs)
  | '0' :: _ => (8, cs)
  | _ => (10, cs)

/-- A number in a text that holds nothing else. With `anyBase`, its start tells its base, and a
    text without digits is zero. A number of more than 64 bits is none. -/
def parse? (anyBase : Bool) (text : String) : Option Int :=
  let cs := text.toList.dropWhile isSpace
  let (negative, unsigned) :=
    match cs with
    | '-' :: rest => (true, rest)
    | '+' :: rest => (false, rest)
    | _ => (false, cs)
  let (base, digits) := if anyBase then based unsigned else (10, unsigned)
  let (inside, after) := (digits.takeWhile (isDigitIn base), digits.dropWhile (isDigitIn base))
  let value : Int := if negative then -(ofDigits base inside : Int) else ofDigits base inside
  if inside.isEmpty then
    if anyBase && (text.toList.all isSpace) then some 0 else none
  else if !after.all isSpace || value < smallest || largest < value then none
  else some value

/-- A number in base ten. -/
def decimal? (text : String) : Option Int :=
  parse? false text

/-- A number from zero up to the largest one of 31 bits, in base ten. -/
def count? (text : String) : Option Nat :=
  match decimal? text with
  | some n => if 0 ≤ n && n ≤ 2147483647 then some n.toNat else none
  | none => none

end FunctionHost.Rehearsal.Shell.Numeral
