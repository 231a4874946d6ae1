-- SUMMARY: Numbers with fractions: how scripts write them, and their text with places or digits.
import FunctionHost.Number.Fixed
import FunctionHost.Rehearsal.Shell.Numeral

/-! # Numbers with fractions

A number with a fraction or an exponent stands for the nearest binary number. It is written with a
number of places, with an exponent behind a number of digits, or in the shorter of both ways. -/

namespace FunctionHost.Rehearsal.Shell.Fraction

open FunctionHost.Number

/-- The power of a base. -/
def power (base n : Nat) : Nat :=
  Nat.pow base n

/-- The number nearest to some digits with an exponent of a base. -/
def scaled (negative : Bool) (digits base : Nat) (exponent : Int) : Binary64 :=
  let bounded := if exponent < -5000 then -5000 else if 5000 < exponent then 5000 else exponent
  let units :=
    if 0 ≤ bounded then Binary64.nearest (digits * power base bounded.toNat * Binary64.one) 1
    else Binary64.nearest (digits * Binary64.one) (power base (-bounded).toNat)
  if units < Binary64.limit then .finite negative units else .infinite negative

/-- The exponent after a mark, if there is one, and what follows it. -/
def exponent (marks : List Char) (cs : List Char) : Int × List Char :=
  match cs with
  | mark :: rest =>
    let (negative, digits) := match rest with
      | '-' :: rest => (true, rest)
      | '+' :: rest => (false, rest)
      | _ => (false, rest)
    let inside := digits.takeWhile Char.isDigit
    if !marks.contains mark || inside.isEmpty then (0, cs)
    else
      let n : Int := Numeral.ofDigits 10 inside
      (if negative then -n else n, digits.drop inside.length)
  | [] => (0, [])

/-- The digits at the start of a text in a base, with a point among them: their value, how many are
    behind the point, and what follows, or none if there are no digits. -/
def digits? (base : Nat) (cs : List Char) : Option (Nat × Nat × List Char) :=
  let whole := cs.takeWhile (Numeral.isDigitIn base)
  let rest := cs.drop whole.length
  let (fraction, rest) := match rest with
    | '.' :: after =>
      let fraction := after.takeWhile (Numeral.isDigitIn base)
      if whole.isEmpty && fraction.isEmpty then ([], rest)
      else (fraction, after.drop fraction.length)
    | _ => ([], rest)
  if whole.isEmpty && fraction.isEmpty then none
  else some (Numeral.ofDigits base (whole ++ fraction), fraction.length, rest)

/-- The number at the start of a text, after white space, and what follows it. -/
def read (cs : List Char) : Binary64 × List Char :=
  let start := cs.dropWhile Numeral.isSpace
  let (negative, unsigned) := match start with
    | '-' :: rest => (true, rest)
    | '+' :: rest => (false, rest)
    | _ => (false, start)
  let lower := unsigned.map Char.toLower
  let named (name : String) : Bool := name.toList.isPrefixOf lower
  if named "infinity" then (.infinite negative, unsigned.drop 8)
  else if named "inf" then (.infinite negative, unsigned.drop 3)
  else if named "nan" then (.nan, unsigned.drop 3)
  else
    let inHex := match unsigned with
      | '0' :: x :: rest => if x = 'x' || x = 'X' then digits? 16 rest else none
      | _ => none
    match inHex, digits? 10 unsigned with
    | some (n, places, rest), _ =>
      let (e, rest) := exponent ['p', 'P'] rest
      (scaled negative n 2 (e - 4 * (places : Int)), rest)
    | none, some (n, places, rest) =>
      let (e, rest) := exponent ['e', 'E'] rest
      (scaled negative n 10 (e - (places : Int)), rest)
    | none, none => (.finite false 0, cs)

/-! ## Texts -/

/-- The decimal exponent of the first digit of a number of units that is not zero. -/
def firstExponent (units : Nat) : Int :=
  let whole := units / Binary64.one
  if 0 < whole then ((toString whole).length : Int) - 1
  else
    let places := (List.range 330).find? fun k => Binary64.one ≤ units * power 10 (k + 1)
    Int.negSucc (places.getD 0)

/-- The digits of a number of units, as many as are asked for, and the exponent of the first one. -/
def significant (count units : Nat) : Nat × Int :=
  if units = 0 then (0, 0)
  else
    let first := firstExponent units
    let shift := (count : Int) - 1 - first
    let n :=
      if 0 ≤ shift then roundHalfEven (units * power 10 shift.toNat) Binary64.one
      else roundHalfEven units (Binary64.one * power 10 (-shift).toNat)
    if n = power 10 count then (n / 10, first + 1) else (n, first)

/-- Digits with a point behind the first of them, and an exponent. -/
def withExponent (marked : Bool) (count n : Nat) (e : Int) : List Char :=
  let digits := (toString n).toList.leftpad count '0'
  let point := if 1 < count || marked then ['.'] else []
  let size := (toString e.natAbs).toList.leftpad 2 '0'
  digits.take 1 ++ point ++ digits.drop 1 ++ 'e' :: (if e < 0 then '-' else '+') :: size

/-- A text without zeros at the end of its places, and without a point at its end. -/
def withoutZeros (cs : List Char) : List Char :=
  let mantissa := cs.takeWhile (· ≠ 'e')
  if mantissa.contains '.' then
    let short := (mantissa.reverse.dropWhile (· = '0')).dropWhile (· = '.')
    short.reverse ++ cs.drop mantissa.length
  else cs

/-- A number with a number of places. -/
def fixed (marked : Bool) (places units : Nat) : List Char :=
  let text := (Binary64.fixed places (.finite false units)).toList
  if places = 0 && marked then text ++ ['.'] else text

/-- The digits of a number without its sign: with places, with an exponent, or in the shorter of
    both ways. -/
def magnitude (kind : Char) (marked : Bool) (precision units : Nat) : List Char :=
  match kind with
  | 'f' => fixed marked precision units
  | 'e' =>
    let (n, e) := significant (precision + 1) units
    withExponent marked (precision + 1) n e
  | _ =>
    let count := max precision 1
    let (n, e) := significant count units
    let text :=
      if -4 ≤ e && e < (count : Int) then fixed marked ((count : Int) - 1 - e).toNat units
      else withExponent marked count n e
    if marked then text else withoutZeros text

/-- Whether a number is negative, and its text without a sign. The letter of the kind tells the
    letter case. -/
def text (kind : Char) (marked : Bool) (precision : Nat) (x : Binary64) : Bool × List Char :=
  let (negative, cs) : Bool × List Char := match x with
    | .nan => (false, "nan".toList)
    | .infinite negative => (negative, "inf".toList)
    | .finite negative units => (negative, magnitude kind.toLower marked precision units)
  (negative, if kind.isUpper then cs.map Char.toUpper else cs)

end FunctionHost.Rehearsal.Shell.Fraction
