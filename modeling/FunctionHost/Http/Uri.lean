-- SUMMARY: The target of a request: its authority, path and query.
import FunctionHost.Text.Utf8

/-! # Request targets

The target of a request is a path with an optional query, an absolute address with a scheme and
an authority, a bare authority, or a single asterisk. The path and the query are kept as they
were sent, without percent-decoding, and a fragment is dropped. -/

namespace FunctionHost.Http

/-- The target of a request. -/
structure Uri where
  authority : Option String
  path : String
  query : Option String
  deriving Repr, DecidableEq

namespace Uri

/-- The longest target, in bytes. -/
def maxLength : Nat := 65534

/-- The longest scheme, in bytes. -/
def maxScheme : Nat := 64

/-! ## Scheme -/

/-- Whether a character may stand in a scheme. -/
def isSchemeChar (c : Char) : Bool :=
  c.isAlphanum || c = '+' || c = '-' || c = '.' || c = '~'

/-- How a text begins: with a scheme, whose length is given with what follows its slashes, without
    one, or with one that is too long. -/
inductive Start where
  | scheme (rest : List Char)
  | bare
  | tooLong
  deriving Repr, DecidableEq

/-- Looks for the colon and the slashes that end a scheme, after a number of characters that may
    stand in one. -/
def startAfter (length : Nat) : List Char → Start
  | ':' :: '/' :: '/' :: rest => if maxScheme < length then .tooLong else .scheme rest
  | c :: rest => if isSchemeChar c then startAfter (length + 1) rest else .bare
  | [] => .bare

/-- How a text begins. A scheme takes at least four characters with its colon and slashes. -/
def start (cs : List Char) : Start :=
  if cs.length ≤ 3 then .bare else startAfter 0 cs

/-! ## Authority -/

/-- The marks that an authority may hold beside letters and digits. -/
def authorityMarks : List Char :=
  "!$&\x27()*+,-.;=_~".toList

/-- What is known of an authority at some point of reading it. -/
structure Reading where
  colons : Nat
  opened : Bool
  closed : Bool
  percent : Bool
  atSign : Bool
  deriving Repr, DecidableEq

/-- Before the first character. -/
def Reading.initial : Reading :=
  ⟨0, false, false, false, false⟩

/-- The longest run of colons in an address in brackets, with the one before the port. -/
def maxColons : Nat := 8

/-- One more character of an authority. A closing bracket and an at sign end a part in which colons
    and percent signs are allowed. -/
def Reading.step (r : Reading) (c : Char) : Option Reading :=
  let next := { r with atSign := false }
  match c with
  | ':' => if maxColons ≤ r.colons then none else some { next with colons := r.colons + 1 }
  | '[' => if r.percent || r.opened then none else some { next with opened := true }
  | ']' =>
    if !r.opened || r.closed then none
    else some { next with colons := 0, closed := true, percent := false }
  | '@' => some { r with colons := 0, percent := false, atSign := true }
  | '%' => some { next with percent := true }
  | _ => if c.isAlphanum || authorityMarks.contains c then some next else none

/-- Whether an authority may end here. -/
def Reading.isComplete (r : Reading) : Bool :=
  r.opened == r.closed && r.colons ≤ 1 && !r.atSign && !r.percent

/-- Whether a character ends the authority. -/
def endsAuthority (c : Char) : Bool :=
  c = '/' || c = '?' || c = '#'

/-- The authority at the start of a text, and what follows it. -/
def authority? (cs : List Char) : Option (List Char × List Char) :=
  let authority := cs.takeWhile fun c => !endsAuthority c
  match authority.foldlM Reading.step Reading.initial with
  | some r =>
    if r.isComplete then some (authority, cs.dropWhile fun c => !endsAuthority c) else none
  | none => none

/-! ## Path and query -/

/-- Whether a character lies in one of the given ranges of code points. -/
def inRanges (ranges : List (Nat × Nat)) (c : Char) : Bool :=
  ranges.any fun (low, high) => low ≤ c.toNat && c.toNat ≤ high

/-- The last code point there is. -/
def lastCode : Nat := 0x10FFFF

/-- Whether a character may stand in a path. -/
def isPathChar : Char → Bool :=
  inRanges [(0x21, 0x22), (0x24, 0x3B), (0x3D, 0x3D), (0x40, 0x5F), (0x61, 0x7E), (0x80, lastCode)]

/-- Whether a character may stand in a query. -/
def isQueryChar : Char → Bool :=
  inRanges [(0x21, 0x21), (0x24, 0x3B), (0x3D, 0x3D), (0x3F, 0x7E), (0x80, lastCode)]

/-- The path and the query of a text without its fragment. An empty path is the root. -/
def pathAndQuery? (cs : List Char) : Option (String × Option String) :=
  let cs := cs.takeWhile (· ≠ '#')
  let path := cs.takeWhile (· ≠ '?')
  let after := cs.dropWhile (· ≠ '?')
  if !path.all isPathChar || !(after.drop 1).all isQueryChar then none
  else
    let root := if path.isEmpty then ['/'] else path
    let query := if after.isEmpty then none else some (String.ofList (after.drop 1))
    some (String.ofList root, query)

/-! ## Targets -/

/-- The target that begins with a scheme, after it. -/
def absolute? (cs : List Char) : Option Uri := do
  let (authority, rest) ← authority? cs
  if authority.isEmpty then none
  let (path, query) ← pathAndQuery? rest
  return ⟨some (String.ofList authority), path, query⟩

/-- The target that is an authority and nothing else. -/
def ofAuthority? (cs : List Char) : Option Uri := do
  let (authority, rest) ← authority? cs
  if rest.isEmpty then return ⟨some (String.ofList authority), "", none⟩ else none

/-- The target of a text. -/
def parse? (text : String) : Option Uri :=
  let cs := text.toList
  if maxLength < text.utf8ByteSize then none
  else
    match cs with
    | [] => none
    | ['*'] => some ⟨none, "*", none⟩
    | '/' :: _ => (pathAndQuery? cs).map fun (path, query) => ⟨none, path, query⟩
    | _ =>
      match start cs with
      | .scheme rest => absolute? rest
      | .bare => ofAuthority? cs
      | .tooLong => none

/-- The query, or the empty text when there is none. -/
def queryText (u : Uri) : String :=
  u.query.getD ""

end Uri

end FunctionHost.Http
