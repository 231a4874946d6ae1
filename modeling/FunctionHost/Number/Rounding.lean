-- SUMMARY: Rounding of a quotient of natural numbers to the nearest whole number.

/-! # Rounding

The quotient of two natural numbers, rounded to the nearest whole number. A quotient that lies
half-way between two whole numbers goes to the even one. -/

namespace FunctionHost.Number

/-- The whole number nearest to `num / den`; a tie goes to the even neighbour. -/
def roundHalfEven (num den : Nat) : Nat :=
  let whole := num / den
  let twice := 2 * (num % den)
  if twice < den then whole
  else if den < twice then whole + 1
  else if whole % 2 = 0 then whole
  else whole + 1

/-- The smallest whole number that is not below `num / den`. -/
def ceilDiv (num den : Nat) : Nat :=
  if num % den = 0 then num / den else num / den + 1

end FunctionHost.Number
