-- SUMMARY: The header fields of a request, in the order in which they were sent.
import FunctionHost.Http.Token

/-! # Header fields

A request has header fields with a name in lower case and a value of bytes. A name may occur
several times, and the order of its values is kept. -/

namespace FunctionHost.Http

/-- The longest header name. -/
def maxNameLength : Nat := 65535

/-- The header name of a token, in lower case. -/
def headerName? (bs : Bytes) : Option String :=
  if maxNameLength < bs.length then none else (token? bs).map String.toLower

/-- Whether a byte may stand in the value of a header field: everything but the controls, of which
    only the tab may. -/
def isValueByte (b : UInt8) : Bool :=
  b = 0x09 || (0x20 ≤ b && b ≠ 0x7F)

/-- Whether a text may be the value of a header field. -/
def isHeaderText (text : String) : Bool :=
  (Text.Utf8.bytes text).all isValueByte

/-- Why a header field is refused. -/
inductive HeaderProblem where
  | name
  | value
  deriving Repr, DecidableEq

/-- The header fields of a request, in the order in which they were sent. -/
structure Headers where
  fields : List (String × Bytes)
  deriving Repr, DecidableEq, Inhabited

namespace Headers

/-- No header fields. -/
def empty : Headers :=
  ⟨[]⟩

/-- A header field from the bytes of its name and value. -/
def field? (name value : Bytes) : Except HeaderProblem (String × Bytes) :=
  match headerName? name with
  | none => .error .name
  | some text => if value.all isValueByte then .ok (text, value) else .error .value

/-- The header fields with the given names and values, or what is wrong with the first field that
    is refused. -/
def ofPairs? (pairs : List (Bytes × Bytes)) : Except HeaderProblem Headers :=
  (pairs.mapM fun (name, value) => field? name value).map Headers.mk

/-- The values of a name, in the order in which they were sent. -/
def values (h : Headers) (name : String) : List Bytes :=
  (h.fields.filter fun field => field.1 == name).map Prod.snd

/-- The first value of a name. -/
def first? (h : Headers) (name : String) : Option Bytes :=
  (h.values name).head?

/-- The text of the first value of a name, or the empty text. -/
def firstText (h : Headers) (name : String) : String :=
  match h.first? name with
  | some value => Text.Utf8.lossy value
  | none => ""

end Headers

end FunctionHost.Http
