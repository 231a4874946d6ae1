-- SUMMARY: Decoding the UTF-8 bytes of a text gives the text back, strictly and leniently.
import FunctionHost.Text.Utf8

/-! # Reading what was encoded

The bytes of a character are read as that character and leave the reader between characters. A text
that was encoded is therefore read back without loss. The arithmetic is done on the number of a
character, which is cut into groups of six bits. -/

namespace FunctionHost.Text.Utf8

/-! ## Single bytes -/

theorem step_ascii {n : Nat} (h : n < 0x80) :
    step none (UInt8.ofNat n) = ([.scalar (Char.ofNat n)], none) := by
  revert n
  decide +kernel

/-- The byte that leads a character of two bytes. Smaller numbers would be overlong. -/
theorem step_two {n : Nat} (low : 2 ≤ n) (high : n < 32) :
    step none (UInt8.ofNat (n + 192)) = ([], some ⟨n, 1, 0x80, 0xBF⟩) := by
  revert low
  revert n
  decide +kernel

/-- The byte that leads a character of three bytes. The first range avoids overlong forms, the
    second one surrogates. -/
theorem step_three {n : Nat} (h : n < 16) :
    step none (UInt8.ofNat (n + 224)) =
      ([], some ⟨n, 2, if n = 0 then 0xA0 else 0x80, if n = 13 then 0x9F else 0xBF⟩) := by
  revert n
  decide +kernel

/-- The byte that leads a character of four bytes. The ranges avoid overlong forms and what lies
    above the last character. -/
theorem step_four {n : Nat} (h : n < 5) :
    step none (UInt8.ofNat (n + 240)) =
      ([], some ⟨n, 3, if n = 0 then 0x90 else 0x80, if n = 4 then 0x8F else 0xBF⟩) := by
  revert n
  decide +kernel

/-- A further byte of a character adds six bits. -/
theorem step_tail {p : Unfinished} {n : Nat} (h : n < 64) (low : p.low.toNat ≤ n + 128)
    (high : n + 128 ≤ p.high.toNat) :
    step (some p) (UInt8.ofNat (n + 128)) =
      if p.missing ≤ 1 then ([.scalar (Char.ofNat (p.bits * 64 + n))], none)
      else ([], some ⟨p.bits * 64 + n, p.missing - 1, 0x80, 0xBF⟩) := by
  have hsize : UInt8.size = 256 := rfl
  have hn : (UInt8.ofNat (n + 128)).toNat = n + 128 := UInt8.toNat_ofNat_of_lt' (by omega)
  have inside : p.low ≤ UInt8.ofNat (n + 128) ∧ UInt8.ofNat (n + 128) ≤ p.high := by
    rw [UInt8.le_iff_toNat_le, UInt8.le_iff_toNat_le, hn]
    exact ⟨low, high⟩
  have hbits : p.extend (UInt8.ofNat (n + 128)) = p.bits * 64 + n := by
    unfold Unfinished.extend
    omega
  rw [step, proceed, if_pos inside, hbits]

/-- The last byte of a character. -/
theorem step_last {bits n : Nat} (h : n < 64) :
    step (some ⟨bits, 1, 0x80, 0xBF⟩) (UInt8.ofNat (n + 128)) =
      ([.scalar (Char.ofNat (bits * 64 + n))], none) :=
  step_tail h (show 128 ≤ n + 128 by omega) (show n + 128 ≤ 191 by omega)

/-- A byte in the middle of a character. -/
theorem step_more {bits missing n : Nat} {low high : UInt8} (h : n < 64)
    (atLeast : low.toNat ≤ n + 128) (atMost : n + 128 ≤ high.toNat) :
    step (some ⟨bits, missing + 2, low, high⟩) (UInt8.ofNat (n + 128)) =
      ([], some ⟨bits * 64 + n, missing + 1, 0x80, 0xBF⟩) := by
  rw [step_tail h atLeast atMost, if_neg (show ¬ missing + 2 ≤ 1 by omega)]
  rfl

/-! ## Characters -/

theorem piecesFrom_cons {done found : List Piece} {standing next : Option Unfinished} {b : UInt8}
    (h : step standing b = (found, next)) (rest : Bytes) :
    piecesFrom done standing (b :: rest) = piecesFrom (found.reverse ++ done) next rest := by
  cases standing <;> simp only [piecesFrom, h]

theorem piecesFrom_utf8EncodeChar (done : List Piece) (c : Char) (rest : Bytes) :
    piecesFrom done none (String.utf8EncodeChar c ++ rest) =
      piecesFrom (.scalar c :: done) none rest := by
  have hc : Char.ofNat c.val.toNat = c := Char.ofNat_toNat c
  have hvalid : c.val.toNat < 0xD800 ∨ (0xDFFF < c.val.toNat ∧ c.val.toNat < 0x110000) := c.valid
  rw [String.utf8EncodeChar]
  generalize c.val.toNat = v at hc hvalid
  subst hc
  split
  · next hone => exact piecesFrom_cons (step_ascii (by omega)) rest
  split
  · next hone htwo =>
    have hbits : v / 64 % 32 * 64 + v % 64 = v := by omega
    rw [List.cons_append, List.cons_append, piecesFrom_cons (step_two (by omega) (by omega)),
      piecesFrom_cons (step_last (by omega)), hbits]
    rfl
  split
  · next hone htwo hthree =>
    have hbits : (v / 4096 % 16 * 64 + v / 64 % 64) * 64 + v % 64 = v := by omega
    have atLeast : (if v / 4096 % 16 = 0 then 0xA0 else 0x80 : UInt8).toNat ≤
        v / 64 % 64 + 128 := by
      split
      · exact show 160 ≤ v / 64 % 64 + 128 by omega
      · exact show 128 ≤ v / 64 % 64 + 128 by omega
    have atMost : v / 64 % 64 + 128 ≤
        (if v / 4096 % 16 = 13 then 0x9F else 0xBF : UInt8).toNat := by
      split
      · exact show v / 64 % 64 + 128 ≤ 159 by omega
      · exact show v / 64 % 64 + 128 ≤ 191 by omega
    rw [List.cons_append, List.cons_append, List.cons_append,
      piecesFrom_cons (step_three (by omega)),
      piecesFrom_cons (step_more (by omega) atLeast atMost),
      piecesFrom_cons (step_last (by omega)), hbits]
    rfl
  · next hone htwo hthree =>
    have hbits : ((v / 262144 % 8 * 64 + v / 4096 % 64) * 64 + v / 64 % 64) * 64 + v % 64 = v := by
      omega
    have atLeast : (if v / 262144 % 8 = 0 then 0x90 else 0x80 : UInt8).toNat ≤
        v / 4096 % 64 + 128 := by
      split
      · exact show 144 ≤ v / 4096 % 64 + 128 by omega
      · exact show 128 ≤ v / 4096 % 64 + 128 by omega
    have atMost : v / 4096 % 64 + 128 ≤
        (if v / 262144 % 8 = 4 then 0x8F else 0xBF : UInt8).toNat := by
      split
      · exact show v / 4096 % 64 + 128 ≤ 143 by omega
      · exact show v / 4096 % 64 + 128 ≤ 191 by omega
    rw [List.cons_append, List.cons_append, List.cons_append, List.cons_append,
      piecesFrom_cons (step_four (by omega)),
      piecesFrom_cons (step_more (by omega) atLeast atMost),
      piecesFrom_cons (step_more (by omega) (show 128 ≤ _ by omega) (show _ ≤ 191 by omega)),
      piecesFrom_cons (step_last (by omega)), hbits]
    rfl

theorem piecesFrom_encode (done : List Piece) (text : List Char) :
    piecesFrom done none (encode text) = done.reverse ++ text.map .scalar := by
  induction text generalizing done with
  | nil => simp [encode, piecesFrom]
  | cons c rest ih =>
    have hencode : encode (c :: rest) = String.utf8EncodeChar c ++ encode rest := by simp [encode]
    rw [hencode, piecesFrom_utf8EncodeChar, ih]
    simp

/-- Lossy decoding loses nothing of what was encoded. -/
theorem decodeLossy_encode (text : List Char) : decodeLossy (encode text) = text := by
  simp [decodeLossy, pieces, piecesFrom_encode, Function.comp_def, Piece.mark]

theorem bytes_append (first second : String) :
    bytes (first ++ second) = bytes first ++ bytes second := by
  unfold bytes encode
  rw [String.toList_append, List.flatMap_append]

theorem lossy_bytes (text : String) : lossy (bytes text) = text := by
  rw [lossy, bytes, decodeLossy_encode, String.ofList_toList]

/-- Strict decoding reads back what was encoded. -/
theorem decode?_encode (text : List Char) : decode? (encode text) = some text := by
  have hpieces : pieces (encode text) = text.map .scalar := by
    simp [pieces, piecesFrom_encode]
  simp [decode?, hpieces, Function.comp_def, Piece.char?]

theorem text?_encode (text : List Char) : text? (encode text) = some (String.ofList text) := by
  rw [text?, decode?_encode]
  rfl

/-! ## The first character -/

/-- The pieces found so far only go in front of those still to be found. -/
theorem piecesFrom_eq (done : List Piece) (standing : Option Unfinished) (bs : Bytes) :
    piecesFrom done standing bs = done.reverse ++ piecesFrom [] standing bs := by
  induction bs generalizing done standing with
  | nil => cases standing <;> simp [piecesFrom]
  | cons b rest ih =>
    rcases hstep : step standing b with ⟨found, next⟩
    rw [piecesFrom_cons hstep, piecesFrom_cons hstep, ih, ih (found.reverse ++ [])]
    simp

theorem pieces_ascii {n : Nat} (h : n < 0x80) (rest : Bytes) :
    pieces (UInt8.ofNat n :: rest) = .scalar (Char.ofNat n) :: pieces rest := by
  rw [pieces, piecesFrom_cons (step_ascii h), piecesFrom_eq]
  rfl

/-- A byte below 0x80 is a character of its own, whatever follows. -/
theorem text?_ascii {n : Nat} (h : n < 0x80) (rest : Bytes) :
    text? (UInt8.ofNat n :: rest) =
      (text? rest).map fun text => String.ofList [Char.ofNat n] ++ text := by
  rw [text?, text?, decode?, decode?, pieces_ascii h]
  by_cases hbroken : (pieces rest).contains .broken = true
  · simp_all
  · simp_all [Piece.char?]

end FunctionHost.Text.Utf8
