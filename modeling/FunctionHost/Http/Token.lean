-- SUMMARY: Tokens of HTTP, and the methods and header names made of them.
import FunctionHost.Text.Utf8

/-! # Tokens

A token is a non-empty sequence of letters, digits and fifteen marks. Methods are tokens that
distinguish case, and header names are tokens in lower case. -/

namespace FunctionHost.Http

/-- The marks that a token may hold beside letters and digits. -/
def tokenMarks : List Char :=
  "!#$%&\x27*+-.^_\x60|~".toList

/-- Whether a byte may stand in a token. -/
def isTokenByte (b : UInt8) : Bool :=
  let c := Char.ofNat b.toNat
  c.isAlphanum || tokenMarks.contains c

/-- The text of a token. -/
def token? (bs : Bytes) : Option String :=
  if bs.isEmpty || !bs.all isTokenByte then none
  else some (String.ofList (bs.map fun b => Char.ofNat b.toNat))

/-- The method of a request. -/
structure Method where
  name : String
  deriving Repr, DecidableEq

namespace Method

/-- The method that reads. -/
def get : Method := ⟨"GET"⟩

/-- The method that reads and drops the body of the answer. -/
def head : Method := ⟨"HEAD"⟩

/-- The method that submits a body. -/
def post : Method := ⟨"POST"⟩

/-- The method that a token names. -/
def ofBytes? (bs : Bytes) : Option Method :=
  (token? bs).map Method.mk

end Method

end FunctionHost.Http
