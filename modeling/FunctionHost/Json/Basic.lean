-- SUMMARY: JSON values: numerals as written, texts that may hold half a surrogate pair, and members in order.
import FunctionHost.Number.Binary64

/-! # JSON values

A value keeps what a reader may need to tell apart: a numeral says whether it was written as a
plain whole number, and a string that holds half of a surrogate pair has no text. The members of
an object stay in order and may repeat a name. -/

namespace FunctionHost

/-- A number as written: sign, decimal coefficient, and the power of ten it is multiplied with.
    There is no exponent when the numeral is a plain whole number, without point or exponent. -/
structure Numeral where
  negative : Bool
  coefficient : Nat
  exponent : Option Int
  deriving Repr, DecidableEq

namespace Numeral

/-- The numeral of a natural number. -/
def ofNat (n : Nat) : Numeral :=
  ⟨false, n, none⟩

/-- The natural number that a numeral is written as, if it has neither sign, point nor exponent. -/
def natural? (n : Numeral) : Option Nat :=
  if n.negative || n.exponent.isSome then none else some n.coefficient

/-- Whether a numeral is small enough for a finite binary64 number. Exponents far from zero are
    settled by the number of digits alone. -/
def isFinite (n : Numeral) : Bool :=
  let exponent := n.exponent.getD 0
  let digits : Int := (toString n.coefficient).length
  if n.coefficient = 0 || exponent + digits < 300 then true
  else if 400 < exponent + digits then false
  else
    let num := n.coefficient * Nat.pow 10 exponent.toNat
    let den := Nat.pow 10 (-exponent).toNat
    Number.Binary64.nearest (num * Number.Binary64.one) den < Number.Binary64.limit

end Numeral

/-- A JSON value. A string, or the name of a member, has no text when an escape in it names half
    of a surrogate pair. -/
inductive Json where
  | null
  | bool (b : Bool)
  | number (n : Numeral)
  | string (text : Option String)
  | array (elements : List Json)
  | object (members : List (Option String × Json))
  deriving Repr, BEq, Inhabited

namespace Json

/-- The string value of a text. -/
def ofText (text : String) : Json :=
  .string (some text)

/-- The value of a text that may be absent. -/
def ofText? (text : Option String) : Json :=
  match text with
  | some t => ofText t
  | none => .null

/-- The object with the given members. -/
def ofMembers (members : List (String × Json)) : Json :=
  .object (members.map fun (name, value) => (some name, value))

/-- The text of a string value. -/
def text? : Json → Option String
  | .string text => text
  | _ => none

/-- The value of the last member with a given name. -/
def member? (name : String) : Json → Option Json
  | .object members => (members.reverse.find? fun (key, _) => key == some name).map Prod.snd
  | _ => none

mutual

/-- How many arrays and objects stand around the innermost part of a value. -/
def depth : Json → Nat
  | .array elements => depthOfElements elements + 1
  | .object members => depthOfMembers members + 1
  | _ => 0

/-- The greatest depth among the elements of an array. -/
def depthOfElements : List Json → Nat
  | [] => 0
  | v :: rest => max (depth v) (depthOfElements rest)

/-- The greatest depth among the members of an object. -/
def depthOfMembers : List (Option String × Json) → Nat
  | [] => 0
  | (_, v) :: rest => max (depth v) (depthOfMembers rest)

end

mutual

/-- Whether every string of a value has a text and every number is finite as a binary64 number. -/
def isReadable : Json → Bool
  | .number n => n.isFinite
  | .string text => text.isSome
  | .array elements => areReadable elements
  | .object members => membersReadable members
  | _ => true

/-- Whether all elements of an array are readable. -/
def areReadable : List Json → Bool
  | [] => true
  | v :: rest => isReadable v && areReadable rest

/-- Whether the names and values of all members of an object are readable. -/
def membersReadable : List (Option String × Json) → Bool
  | [] => true
  | (name, v) :: rest => name.isSome && isReadable v && membersReadable rest

end

end Json

end FunctionHost
