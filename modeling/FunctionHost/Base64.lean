-- SUMMARY: Base64 with the standard alphabet and canonical padding.
import FunctionHost.Text.Utf8

/-! # Base64

Three bytes are written as four characters of six bits each. A last group of one or two bytes is
filled with zero bits and padded with `=` to four characters. Reading accepts exactly what
writing produces: the length is a multiple of four, padding stands only at the end, and the
filling bits are zero. -/

namespace FunctionHost.Base64

/-- The character for a value of six bits. -/
def digit (value : Nat) : Char :=
  if value < 26 then Char.ofNat (65 + value)
  else if value < 52 then Char.ofNat (71 + value)
  else if value < 62 then Char.ofNat (value - 4)
  else if value = 62 then '+'
  else '/'

/-- The value of a character of the alphabet. -/
def value? (c : Char) : Option Nat :=
  if 'A' ≤ c ∧ c ≤ 'Z' then some (c.toNat - 65)
  else if 'a' ≤ c ∧ c ≤ 'z' then some (c.toNat - 71)
  else if '0' ≤ c ∧ c ≤ '9' then some (c.toNat + 4)
  else if c = '+' then some 62
  else if c = '/' then some 63
  else none

/-- The four characters of three bytes. -/
def full (a b c : UInt8) : List Char :=
  let bits := (a.toNat * 256 + b.toNat) * 256 + c.toNat
  [digit (bits / 262144), digit (bits / 4096 % 64), digit (bits / 64 % 64), digit (bits % 64)]

/-- The four characters of a last group of two bytes. -/
def two (a b : UInt8) : List Char :=
  let bits := (a.toNat * 256 + b.toNat) * 4
  [digit (bits / 4096), digit (bits / 64 % 64), digit (bits % 64), '=']

/-- The four characters of a last single byte. -/
def single (a : UInt8) : List Char :=
  let bits := a.toNat * 16
  [digit (bits / 64), digit (bits % 64), '=', '=']

/-- The text of a byte string; `done` holds the characters already written, backwards. -/
def encodeOnto (done : List Char) : Bytes → List Char
  | a :: b :: c :: rest => encodeOnto ((full a b c).reverse ++ done) rest
  | [a, b] => ((two a b).reverse ++ done).reverse
  | [a] => ((single a).reverse ++ done).reverse
  | [] => done.reverse

/-- The text of a byte string. -/
def encode (bs : Bytes) : List Char :=
  encodeOnto [] bs

/-- The three bytes of four characters. -/
def ofFull? (a b c d : Char) : Option Bytes := do
  let bits := (((← value? a) * 64 + (← value? b)) * 64 + (← value? c)) * 64 + (← value? d)
  return [UInt8.ofNat (bits / 65536), UInt8.ofNat (bits / 256), UInt8.ofNat bits]

/-- The two bytes of three characters before one mark of padding. -/
def ofTwo? (a b c : Char) : Option Bytes := do
  let bits := ((← value? a) * 64 + (← value? b)) * 64 + (← value? c)
  if bits % 4 = 0 then return [UInt8.ofNat (bits / 1024), UInt8.ofNat (bits / 4)] else none

/-- The byte of two characters before two marks of padding. -/
def ofSingle? (a b : Char) : Option Bytes := do
  let bits := (← value? a) * 64 + (← value? b)
  if bits % 16 = 0 then return [UInt8.ofNat (bits / 16)] else none

/-- The bytes of a last group of four characters, with or without padding. -/
def ofLast? (a b c d : Char) : Option Bytes :=
  if d = '=' then
    if c = '=' then ofSingle? a b else ofTwo? a b c
  else ofFull? a b c d

/-- The bytes of a text; `done` holds the bytes already read, backwards. -/
def decodeOnto? (done : Bytes) : List Char → Option Bytes
  | [] => some done.reverse
  | [a, b, c, d] => (ofLast? a b c d).map fun found => (found.reverse ++ done).reverse
  | a :: b :: c :: d :: rest =>
    match ofFull? a b c d with
    | some found => decodeOnto? (found.reverse ++ done) rest
    | none => none
  | _ => none

/-- The bytes of a text, if it is the text of some byte string. -/
def decode? (text : List Char) : Option Bytes :=
  decodeOnto? [] text

end FunctionHost.Base64
