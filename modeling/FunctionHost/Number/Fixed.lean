-- SUMMARY: Decimal text with a fixed number of places.
import FunctionHost.Number.Binary64

/-! # Fixed decimal places

The exact decimal value of a number, rounded to a given number of places. A tie goes to the even
last digit, and the sign is kept even when every digit is zero. -/

namespace FunctionHost.Number

/-- The digits of `scaled / 10 ^ places`, with exactly that many of them after the point. -/
def placed (scaled places : Nat) : String :=
  let whole := toString (scaled / Nat.pow 10 places)
  if places = 0 then whole
  else
    let fraction := toString (scaled % Nat.pow 10 places)
    let padding := String.ofList (List.replicate (places - fraction.length) '0')
    whole ++ "." ++ padding ++ fraction

/-- The text of a number with a fixed number of decimal places. -/
def Binary64.fixed (places : Nat) (x : Binary64) : String :=
  let sign (negative : Bool) : String := if negative then "-" else ""
  match x with
  | .nan => "NaN"
  | .infinite negative => sign negative ++ "inf"
  | .finite negative units =>
    let scaled := roundHalfEven (units * Nat.pow 10 places) Binary64.one
    sign negative ++ placed scaled places

end FunctionHost.Number
