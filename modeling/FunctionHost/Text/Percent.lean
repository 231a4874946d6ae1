-- SUMMARY: Percent-encoding of bytes, read leniently: a percent sign without two hexadecimal digits stands for itself.
import FunctionHost.Text.Utf8

/-! # Percent-decoding

`%41` stands for the byte with the hexadecimal value 41. A percent sign that two hexadecimal
digits do not follow is an ordinary byte, so every byte string can be read. -/

namespace FunctionHost.Text

/-- The value of a hexadecimal digit in either case. -/
def hexValue? (c : Char) : Option Nat :=
  if '0' ≤ c ∧ c ≤ '9' then some (c.toNat - 48)
  else if 'a' ≤ c ∧ c ≤ 'f' then some (c.toNat - 87)
  else if 'A' ≤ c ∧ c ≤ 'F' then some (c.toNat - 55)
  else none

/-- The value of a byte that is a hexadecimal digit. -/
def hexByte? (b : UInt8) : Option Nat :=
  hexValue? (Char.ofNat b.toNat)

namespace Percent

/-- The byte `%`. -/
def sign : UInt8 := 0x25

/-- The bytes that a percent-encoded byte string stands for. -/
def decode : Bytes → Bytes
  | [] => []
  | b :: rest =>
    if b = sign then
      match rest with
      | h :: l :: after =>
        match hexByte? h, hexByte? l with
        | some high, some low => UInt8.ofNat (high * 16 + low) :: decode after
        | _, _ => b :: decode (h :: l :: after)
      | _ => b :: rest
    else b :: decode rest
  termination_by bs => bs.length

end Percent

end FunctionHost.Text
