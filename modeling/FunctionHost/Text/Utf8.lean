-- SUMMARY: UTF-8: encoding of text, strict decoding, and decoding that puts a mark for each ill-formed piece.

/-! # UTF-8

A byte string is read as a sequence of pieces. A piece is either a well-formed character or a
maximal ill-formed stretch: the longest run of bytes that begins some character but does not
finish it, or a single byte that begins none. Strict decoding accepts only characters, and lossy
decoding writes U+FFFD for every other piece. -/

namespace FunctionHost

/-- A finite sequence of bytes, such as the body of a request. -/
abbrev Bytes := List UInt8

namespace Text.Utf8

/-- The bytes of a sequence of characters. -/
def encode (text : List Char) : Bytes :=
  text.flatMap String.utf8EncodeChar

/-- The bytes of a text. -/
def bytes (text : String) : Bytes :=
  encode text.toList

/-- A character, or a maximal ill-formed stretch of bytes. -/
inductive Piece where
  | scalar (c : Char)
  | broken
  deriving Repr, DecidableEq

/-- The character in the middle of which the reader stands: the bits read so far, how many bytes
    are still to come, and the range in which the next of them must lie. -/
structure Unfinished where
  bits : Nat
  missing : Nat
  low : UInt8
  high : UInt8
  deriving Repr, DecidableEq

/-- What a lead byte of a longer character begins. The ranges of the second byte leave out the
    overlong forms, the surrogates and everything above U+10FFFF. -/
def Unfinished.ofLead? (b : UInt8) : Option Unfinished :=
  if b < 0xC2 then none
  else if b < 0xE0 then some ⟨b.toNat - 0xC0, 1, 0x80, 0xBF⟩
  else if b = 0xE0 then some ⟨0, 2, 0xA0, 0xBF⟩
  else if b = 0xED then some ⟨0xD, 2, 0x80, 0x9F⟩
  else if b < 0xF0 then some ⟨b.toNat - 0xE0, 2, 0x80, 0xBF⟩
  else if b = 0xF0 then some ⟨0, 3, 0x90, 0xBF⟩
  else if b < 0xF4 then some ⟨b.toNat - 0xF0, 3, 0x80, 0xBF⟩
  else if b = 0xF4 then some ⟨4, 3, 0x80, 0x8F⟩
  else none

/-- The bits of a partly read character with those of one more byte. -/
def Unfinished.extend (p : Unfinished) (b : UInt8) : Nat :=
  p.bits * 64 + (b.toNat - 0x80)

/-- What one byte does between characters: the pieces it completes and where the reader stands
    afterwards. -/
def begin (b : UInt8) : List Piece × Option Unfinished :=
  if b < 0x80 then ([.scalar (Char.ofNat b.toNat)], none)
  else match Unfinished.ofLead? b with
    | some p => ([], some p)
    | none => ([.broken], none)

/-- What one byte does inside a character. A byte that cannot continue it ends the ill-formed
    stretch and is read again as the beginning of something else. -/
def proceed (p : Unfinished) (b : UInt8) : List Piece × Option Unfinished :=
  if p.low ≤ b ∧ b ≤ p.high then
    if p.missing ≤ 1 then ([.scalar (Char.ofNat (p.extend b))], none)
    else ([], some ⟨p.extend b, p.missing - 1, 0x80, 0xBF⟩)
  else
    let (found, next) := begin b
    (.broken :: found, next)

/-- One byte, wherever the reader stands. -/
def step : Option Unfinished → UInt8 → List Piece × Option Unfinished
  | none, b => begin b
  | some p, b => proceed p b

/-- The pieces of a byte string, read from a given standing; `done` holds those already found,
    the last one first. -/
def piecesFrom (done : List Piece) : Option Unfinished → Bytes → List Piece
  | none, [] => done.reverse
  | some _, [] => (Piece.broken :: done).reverse
  | standing, b :: rest =>
    let (found, next) := step standing b
    piecesFrom (found.reverse ++ done) next rest

/-- The pieces of a byte string, in order. -/
def pieces (bs : Bytes) : List Piece :=
  piecesFrom [] none bs

/-- The character of a piece, if it is one. -/
def Piece.char? : Piece → Option Char
  | .scalar c => some c
  | .broken => none

/-- The character that stands for a piece; U+FFFD marks an ill-formed one. -/
def Piece.mark : Piece → Char
  | .scalar c => c
  | .broken => '\uFFFD'

/-- The characters of a byte string, if it is well formed. -/
def decode? (bs : Bytes) : Option (List Char) :=
  let found := pieces bs
  if found.contains .broken then none else some (found.filterMap Piece.char?)

/-- The characters of a byte string, with U+FFFD for each ill-formed piece. -/
def decodeLossy (bs : Bytes) : List Char :=
  (pieces bs).map Piece.mark

/-- The text of a byte string, if it is well formed. -/
def text? (bs : Bytes) : Option String :=
  (decode? bs).map String.ofList

/-- The text of a byte string, with U+FFFD for each ill-formed piece. -/
def lossy (bs : Bytes) : String :=
  String.ofList (decodeLossy bs)

end Text.Utf8

end FunctionHost
