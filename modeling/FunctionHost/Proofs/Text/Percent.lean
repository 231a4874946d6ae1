-- SUMMARY: What percent-encoded bytes stand for, said without decoding them.
import FunctionHost.Text.Percent

/-! # Percent-encoded bytes

A percent sign with two hexadecimal digits behind it is an escape and stands for the byte with this
value. Every other byte stands for itself, a percent sign without two such digits among them. So
every byte string stands for exactly one, and this is the one that decoding gives. -/

namespace FunctionHost.Text.Percent

/-- Bytes begin with a percent sign and two hexadecimal digits. -/
def BeginsEscape (bs : Bytes) : Prop :=
  ∃ h l high low rest, bs = sign :: h :: l :: rest ∧ hexByte? h = some high ∧ hexByte? l = some low

/-- Percent-encoded bytes stand for other bytes. -/
inductive StandsFor : Bytes → Bytes → Prop where
  | nil : StandsFor [] []
  | escape {h l : UInt8} {high low : Nat} (first : hexByte? h = some high)
      (second : hexByte? l = some low) {bs plain : Bytes} (rest : StandsFor bs plain) :
      StandsFor (sign :: h :: l :: bs) (UInt8.ofNat (high * 16 + low) :: plain)
  | itself {b : UInt8} {bs plain : Bytes} (none : ¬ BeginsEscape (b :: bs))
      (rest : StandsFor bs plain) : StandsFor (b :: bs) (b :: plain)

/-! ## Decoding -/

theorem decode_nil : decode [] = [] := by
  rw [decode]

theorem decode_cons_other {b : UInt8} (h : b ≠ sign) (rest : Bytes) :
    decode (b :: rest) = b :: decode rest := by
  unfold decode
  rw [if_neg h, ← decode.eq_def]

theorem decode_escape {h l : UInt8} {high low : Nat} (first : hexByte? h = some high)
    (second : hexByte? l = some low) (rest : Bytes) :
    decode (sign :: h :: l :: rest) = UInt8.ofNat (high * 16 + low) :: decode rest := by
  rw [decode, if_pos rfl]
  simp only [first, second]

theorem decode_itself {b : UInt8} {rest : Bytes} (none : ¬ BeginsEscape (b :: rest)) :
    decode (b :: rest) = b :: decode rest := by
  by_cases hb : b = sign
  · subst hb
    match rest with
    | [] => simp [decode]
    | [x] => simp [decode]
    | h :: l :: rest =>
      rw [decode, if_pos rfl]
      cases first : hexByte? h with
      | none => rfl
      | some high =>
        cases second : hexByte? l with
        | none => rfl
        | some low => exact absurd ⟨h, l, high, low, rest, rfl, first, second⟩ none
  · exact decode_cons_other hb rest

/-- Without percent signs there is nothing to decode. -/
theorem decode_of_plain {bs : Bytes} (h : sign ∉ bs) : decode bs = bs := by
  induction bs with
  | nil => exact decode_nil
  | cons b rest ih =>
    obtain ⟨hb, hrest⟩ := not_or.1 (mt List.mem_cons.2 h)
    rw [decode_cons_other (Ne.symm hb), ih hrest]

theorem standsFor_decode (bs : Bytes) : StandsFor bs (decode bs) := by
  match bs with
  | [] =>
    rw [decode_nil]
    exact .nil
  | b :: rest =>
    by_cases escape : BeginsEscape (b :: rest)
    · obtain ⟨h, l, high, low, after, heq, first, second⟩ := escape
      obtain ⟨rfl, rfl⟩ := List.cons.inj heq
      rw [decode_escape first second]
      exact .escape first second (standsFor_decode after)
    · rw [decode_itself escape]
      exact .itself escape (standsFor_decode rest)
termination_by bs.length

/-- Every byte string stands for the bytes that decoding gives, and for no others. -/
theorem standsFor_iff {bs plain : Bytes} : StandsFor bs plain ↔ decode bs = plain := by
  constructor
  · intro h
    induction h with
    | nil => exact decode_nil
    | escape first second rest ih => rw [decode_escape first second, ih]
    | itself none rest ih => rw [decode_itself none, ih]
  · rintro rfl
    exact standsFor_decode bs

end FunctionHost.Text.Percent
