-- SUMMARY: Binary64 numbers as exact values: rounding of a quotient, bit patterns and ceilings.
import FunctionHost.Number.Rounding

/-! # Binary64 numbers

Every finite binary64 number is a whole multiple of 2⁻¹⁰⁷⁴, so its magnitude is kept as the
number of these units. Comparison, ceiling and decimal printing are then arithmetic on natural
numbers, and rounding is to the nearest multiple of a power of two. -/

namespace FunctionHost.Number

/-- A binary64 number. A finite one is its sign and its magnitude in units of 2⁻¹⁰⁷⁴. -/
inductive Binary64 where
  | nan
  | infinite (negative : Bool)
  | finite (negative : Bool) (units : Nat)
  deriving Repr, DecidableEq

namespace Binary64

/-- The number of units in one. -/
def one : Nat := Nat.pow 2 1074

/-- The first magnitude that is too large for a finite number. -/
def limit : Nat := Nat.pow 2 2098

/-- The spacing of binary64 numbers around a magnitude: 53 bits are kept. -/
def spacing (units : Nat) : Nat :=
  Nat.pow 2 (units.log2 - 52)

/-- The magnitude nearest to `num / den` units, a tie going to the one with an even last bit. -/
def nearest (num den : Nat) : Nat :=
  let step := spacing (num / den)
  roundHalfEven num (den * step) * step

/-- The non-negative number with a given magnitude. -/
def ofUnits (units : Nat) : Binary64 :=
  if units < limit then .finite false units else .infinite false

/-- The number nearest to a natural number. -/
def ofNat (n : Nat) : Binary64 :=
  ofUnits (nearest (n * one) 1)

/-- A number divided by a natural number, rounded to nearest. -/
def divNat (x : Binary64) (n : Nat) : Binary64 :=
  match x with
  | .finite negative units => .finite negative (nearest units n)
  | _ => x

/-- The smallest whole number that is not below a number. A negative number above -1 becomes
    negative zero. -/
def ceil : Binary64 → Binary64
  | .finite false units => .finite false (ceilDiv units one * one)
  | .finite true units => .finite true (units / one * one)
  | x => x

/-- How many fractions there are: a bit pattern has 52 bits after the exponent. -/
def fractions : Nat := 4503599627370496

/-- The bit of the sign. -/
def signBit : Nat := 9223372036854775808

/-- The bit pattern of the positive infinity. -/
def infinityBits : Nat := 2047 * fractions

/-- The bit pattern that stands for all that are no numbers: the infinity and the first bit of the
    fraction. -/
def nanBits : Nat := infinityBits + fractions / 2

/-- The bit pattern of a magnitude: below 2⁵² units the units themselves, and above a biased
    exponent followed by the 52 bits after the leading one. -/
def magnitudeBits (units : Nat) : Nat :=
  if units < fractions then units
  else
    let shift := units.log2 - 52
    (shift + 1) * fractions + (units / Nat.pow 2 shift - fractions)

/-- The magnitude of a bit pattern without its sign. -/
def magnitudeOfBits (bits : Nat) : Nat :=
  let fraction := bits % fractions
  match bits / fractions with
  | 0 => fraction
  | exponent + 1 => (fractions + fraction) * Nat.pow 2 exponent

/-- The number with a given bit pattern. -/
def ofBits (bits : UInt64) : Binary64 :=
  let negative := signBit ≤ bits.toNat
  let rest := bits.toNat % signBit
  if rest < infinityBits then .finite negative (magnitudeOfBits rest)
  else if rest = infinityBits then .infinite negative
  else .nan

/-- The bit pattern of a number. -/
def toBits (x : Binary64) : UInt64 :=
  let sign (negative : Bool) : Nat := if negative then signBit else 0
  match x with
  | .nan => UInt64.ofNat nanBits
  | .infinite negative => UInt64.ofNat (sign negative + infinityBits)
  | .finite negative units => UInt64.ofNat (sign negative + magnitudeBits units)

end Binary64

end FunctionHost.Number
