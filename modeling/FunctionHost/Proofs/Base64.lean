-- SUMMARY: Reading base64 gives back the bytes that were written, and accepts nothing else.
import FunctionHost.Base64

/-! # Reading what was written in base64

The bits of a group of bytes are cut into values of six bits and put together again. A character of
the alphabet is never the mark of padding, so the reader takes each group for what it is. A group
that is read has nothing in it but the bits of its bytes, since the bits that fill it up must be
zero, so a text that is read is the one that was written for its bytes. -/

namespace FunctionHost.Base64

/-! ## Digits -/

theorem value?_digit {v : Nat} (h : v < 64) : value? (digit v) = some v := by
  revert v
  decide

theorem digit_ne_padding {v : Nat} (h : v < 64) : digit v ≠ '=' := by
  revert v
  decide

/-- A byte is known by its number up to multiples of 256. -/
theorem ofNat_eq {b : UInt8} {n : Nat} (h : n % 256 = b.toNat) : UInt8.ofNat n = b := by
  apply UInt8.toNat.inj
  rw [UInt8.toNat_ofNat']
  exact h

/-! ## Groups -/

theorem ofFull?_full (a b c : UInt8) :
    ∃ p q r s, full a b c = [p, q, r, s] ∧ s ≠ '=' ∧ ofFull? p q r s = some [a, b, c] := by
  have ha : a.toNat < 256 := a.toNat_lt
  have hb : b.toNat < 256 := b.toNat_lt
  have hc : c.toNat < 256 := c.toNat_lt
  refine ⟨_, _, _, _, rfl, digit_ne_padding (Nat.mod_lt _ (by omega)), ?_⟩
  generalize hbits : (a.toNat * 256 + b.toNat) * 256 + c.toNat = bits
  have hjoined : ((bits / 262144 * 64 + bits / 4096 % 64) * 64 + bits / 64 % 64) * 64 + bits % 64 =
      bits := by omega
  rw [ofFull?, value?_digit (show bits / 262144 < 64 by omega),
    value?_digit (show bits / 4096 % 64 < 64 by omega),
    value?_digit (show bits / 64 % 64 < 64 by omega), value?_digit (show bits % 64 < 64 by omega)]
  simp only [Option.bind_eq_bind, Option.bind_some, Option.pure_def, hjoined]
  rw [ofNat_eq (b := a) (by omega), ofNat_eq (b := b) (by omega), ofNat_eq (b := c) (by omega)]

theorem ofTwo?_two (a b : UInt8) :
    ∃ p q r, two a b = [p, q, r, '='] ∧ r ≠ '=' ∧ ofTwo? p q r = some [a, b] := by
  have ha : a.toNat < 256 := a.toNat_lt
  have hb : b.toNat < 256 := b.toNat_lt
  refine ⟨_, _, _, rfl, digit_ne_padding (Nat.mod_lt _ (by omega)), ?_⟩
  generalize hbits : (a.toNat * 256 + b.toNat) * 4 = bits
  have hjoined : (bits / 4096 * 64 + bits / 64 % 64) * 64 + bits % 64 = bits := by omega
  rw [ofTwo?, value?_digit (show bits / 4096 < 64 by omega),
    value?_digit (show bits / 64 % 64 < 64 by omega), value?_digit (show bits % 64 < 64 by omega)]
  simp only [Option.bind_eq_bind, Option.bind_some, Option.pure_def, hjoined]
  rw [if_pos (by omega), ofNat_eq (b := a) (by omega), ofNat_eq (b := b) (by omega)]

theorem ofSingle?_single (a : UInt8) :
    ∃ p q, single a = [p, q, '=', '='] ∧ ofSingle? p q = some [a] := by
  have ha : a.toNat < 256 := a.toNat_lt
  refine ⟨_, _, rfl, ?_⟩
  generalize hbits : a.toNat * 16 = bits
  have hjoined : bits / 64 * 64 + bits % 64 = bits := by omega
  rw [ofSingle?, value?_digit (show bits / 64 < 64 by omega),
    value?_digit (show bits % 64 < 64 by omega)]
  simp only [Option.bind_eq_bind, Option.bind_some, Option.pure_def, hjoined]
  rw [if_pos (by omega), ofNat_eq (b := a) (by omega)]

/-! ## Texts -/

theorem encodeOnto_eq : ∀ (done : List Char) (bs : Bytes),
    encodeOnto done bs = done.reverse ++ encode bs
  | done, a :: b :: c :: rest => by
    rw [encode, encodeOnto, encodeOnto, encodeOnto_eq _ rest,
      encodeOnto_eq ((full a b c).reverse ++ []) rest]
    simp
  | done, [a, b] => by simp [encode, encodeOnto]
  | done, [a] => by simp [encode, encodeOnto]
  | done, [] => by simp [encode, encodeOnto]

theorem encode_cons (a b c : UInt8) (rest : Bytes) :
    encode (a :: b :: c :: rest) = full a b c ++ encode rest := by
  rw [encode, encodeOnto, encodeOnto_eq]
  simp

theorem decodeOnto?_full (done : Bytes) (a b c : UInt8) (text : List Char) :
    decodeOnto? done (full a b c ++ text) = decodeOnto? (c :: b :: a :: done) text := by
  obtain ⟨p, q, r, s, hfull, hs, hread⟩ := ofFull?_full a b c
  rw [hfull]
  cases text with
  | nil => simp [decodeOnto?, ofLast?, hs, hread]
  | cons t text => simp [decodeOnto?, hread]

theorem decodeOnto?_encode : ∀ (done bs : Bytes),
    decodeOnto? done (encode bs) = some (done.reverse ++ bs)
  | done, a :: b :: c :: rest => by
    rw [encode_cons, decodeOnto?_full, decodeOnto?_encode _ rest]
    simp
  | done, [a, b] => by
    obtain ⟨p, q, r, htwo, hr, hread⟩ := ofTwo?_two a b
    have htext : encode [a, b] = two a b := by simp [encode, encodeOnto]
    rw [htext, htwo]
    simp [decodeOnto?, ofLast?, hr, hread]
  | done, [a] => by
    obtain ⟨p, q, hsingle, hread⟩ := ofSingle?_single a
    have htext : encode [a] = single a := by simp [encode, encodeOnto]
    rw [htext, hsingle]
    simp [decodeOnto?, ofLast?, hread]
  | done, [] => by simp [encode, encodeOnto, decodeOnto?]

/-- Reading the base64 of a byte string gives the byte string back. -/
theorem decode?_encode (bs : Bytes) : decode? (encode bs) = some bs := by
  rw [decode?, decodeOnto?_encode]
  rfl

/-! ## Reading nothing else -/

/-- A character that is read has a value of six bits and is the character written for it. -/
theorem digit_of_value? {c : Char} {v : Nat} (h : value? c = some v) : v < 64 ∧ digit v = c := by
  unfold value? at h
  split at h
  · next hc =>
    have low : 65 ≤ c.toNat := UInt32.le_iff_toNat_le.1 hc.1
    have high : c.toNat ≤ 90 := UInt32.le_iff_toNat_le.1 hc.2
    obtain rfl : c.toNat - 65 = v := Option.some.inj h
    refine ⟨by omega, ?_⟩
    unfold digit
    rw [if_pos (by omega), Nat.add_sub_of_le low, Char.ofNat_toNat]
  split at h
  · next hc =>
    have low : 97 ≤ c.toNat := UInt32.le_iff_toNat_le.1 hc.1
    have high : c.toNat ≤ 122 := UInt32.le_iff_toNat_le.1 hc.2
    obtain rfl : c.toNat - 71 = v := Option.some.inj h
    refine ⟨by omega, ?_⟩
    unfold digit
    rw [if_neg (by omega), if_pos (by omega), Nat.add_sub_of_le (by omega), Char.ofNat_toNat]
  split at h
  · next hc =>
    have low : 48 ≤ c.toNat := UInt32.le_iff_toNat_le.1 hc.1
    have high : c.toNat ≤ 57 := UInt32.le_iff_toNat_le.1 hc.2
    obtain rfl : c.toNat + 4 = v := Option.some.inj h
    refine ⟨by omega, ?_⟩
    unfold digit
    rw [if_neg (by omega), if_neg (by omega), if_pos (by omega), Nat.add_sub_cancel,
      Char.ofNat_toNat]
  split at h
  · next hc =>
    obtain rfl : 62 = v := Option.some.inj h
    exact ⟨by decide, hc.symm⟩
  split at h
  · next hc =>
    obtain rfl : 63 = v := Option.some.inj h
    exact ⟨by decide, hc.symm⟩
  · cases h

/-- Four characters that are read as three bytes are those of the three bytes. -/
theorem full_of_ofFull? {a b c d : Char} {bs : Bytes} (h : ofFull? a b c d = some bs) :
    ∃ x y z, bs = [x, y, z] ∧ full x y z = [a, b, c, d] := by
  unfold ofFull? at h
  obtain ⟨p, readA, h₁⟩ := Option.bind_eq_some_iff.1 h
  obtain ⟨q, readB, h₂⟩ := Option.bind_eq_some_iff.1 h₁
  obtain ⟨r, readC, h₃⟩ := Option.bind_eq_some_iff.1 h₂
  obtain ⟨s, readD, found⟩ := Option.bind_eq_some_iff.1 h₃
  obtain ⟨hp, rfl⟩ := digit_of_value? readA
  obtain ⟨hq, rfl⟩ := digit_of_value? readB
  obtain ⟨hr, rfl⟩ := digit_of_value? readC
  obtain ⟨hs, rfl⟩ := digit_of_value? readD
  refine ⟨_, _, _, (Option.some.inj found).symm, ?_⟩
  generalize hbits : ((p * 64 + q) * 64 + r) * 64 + s = bits
  have hjoined : ((UInt8.ofNat (bits / 65536)).toNat * 256 + (UInt8.ofNat (bits / 256)).toNat) * 256
      + (UInt8.ofNat bits).toNat = bits := by
    simp only [UInt8.toNat_ofNat']
    omega
  have first : bits / 262144 = p := by omega
  have second : bits / 4096 % 64 = q := by omega
  have third : bits / 64 % 64 = r := by omega
  have fourth : bits % 64 = s := by omega
  unfold full
  rw [hjoined]
  simp only [first, second, third, fourth]

/-- Three characters that are read as two bytes are those of the two bytes, before a mark. -/
theorem two_of_ofTwo? {a b c : Char} {bs : Bytes} (h : ofTwo? a b c = some bs) :
    ∃ x y, bs = [x, y] ∧ two x y = [a, b, c, '='] := by
  unfold ofTwo? at h
  obtain ⟨p, readA, h₁⟩ := Option.bind_eq_some_iff.1 h
  obtain ⟨q, readB, h₂⟩ := Option.bind_eq_some_iff.1 h₁
  obtain ⟨r, readC, found⟩ := Option.bind_eq_some_iff.1 h₂
  obtain ⟨hp, rfl⟩ := digit_of_value? readA
  obtain ⟨hq, rfl⟩ := digit_of_value? readB
  obtain ⟨hr, rfl⟩ := digit_of_value? readC
  dsimp only at found
  generalize hbits : (p * 64 + q) * 64 + r = bits at found
  split at found
  · next filled =>
    refine ⟨_, _, (Option.some.inj found).symm, ?_⟩
    have hjoined : ((UInt8.ofNat (bits / 1024)).toNat * 256 + (UInt8.ofNat (bits / 4)).toNat) * 4 =
        bits := by
      simp only [UInt8.toNat_ofNat']
      omega
    have first : bits / 4096 = p := by omega
    have second : bits / 64 % 64 = q := by omega
    have third : bits % 64 = r := by omega
    unfold two
    rw [hjoined]
    simp only [first, second, third]
  · cases found

/-- Two characters that are read as one byte are those of the byte, before two marks. -/
theorem single_of_ofSingle? {a b : Char} {bs : Bytes} (h : ofSingle? a b = some bs) :
    ∃ x, bs = [x] ∧ single x = [a, b, '=', '='] := by
  unfold ofSingle? at h
  obtain ⟨p, readA, h₁⟩ := Option.bind_eq_some_iff.1 h
  obtain ⟨q, readB, found⟩ := Option.bind_eq_some_iff.1 h₁
  obtain ⟨hp, rfl⟩ := digit_of_value? readA
  obtain ⟨hq, rfl⟩ := digit_of_value? readB
  dsimp only at found
  generalize hbits : p * 64 + q = bits at found
  split at found
  · next filled =>
    refine ⟨_, (Option.some.inj found).symm, ?_⟩
    have hjoined : (UInt8.ofNat (bits / 16)).toNat * 16 = bits := by
      simp only [UInt8.toNat_ofNat']
      omega
    have first : bits / 64 = p := by omega
    have second : bits % 64 = q := by omega
    unfold single
    rw [hjoined]
    simp only [first, second]
  · cases found

/-- A last group that is read is the text of its bytes. -/
theorem encode_of_ofLast? {a b c d : Char} {bs : Bytes} (h : ofLast? a b c d = some bs) :
    encode bs = [a, b, c, d] := by
  unfold ofLast? at h
  split at h
  · next hd =>
    subst hd
    split at h
    · next hc =>
      subst hc
      obtain ⟨x, rfl, htext⟩ := single_of_ofSingle? h
      simp [encode, encodeOnto, htext]
    · obtain ⟨x, y, rfl, htext⟩ := two_of_ofTwo? h
      simp [encode, encodeOnto, htext]
  · obtain ⟨x, y, z, rfl, htext⟩ := full_of_ofFull? h
    simp [encode, encodeOnto, htext]

theorem encode_of_decodeOnto? {done bs : Bytes} {text : List Char}
    (h : decodeOnto? done text = some bs) :
    ∃ read, bs = done.reverse ++ read ∧ encode read = text := by
  fun_induction decodeOnto? done text with
  | case1 done => exact ⟨[], by simpa using h.symm, rfl⟩
  | case2 done a b c d =>
    obtain ⟨found, last, rfl⟩ := Option.map_eq_some_iff.1 h
    exact ⟨found, by simp, encode_of_ofLast? last⟩
  | case3 done a b c d rest hrest found full ih =>
    obtain ⟨read, rfl, htext⟩ := ih h
    obtain ⟨x, y, z, rfl, hfull⟩ := full_of_ofFull? full
    refine ⟨x :: y :: z :: read, by simp, ?_⟩
    rw [encode_cons, hfull, htext]
    rfl
  | case4 => cases h
  | case5 => cases h

/-- Reading accepts exactly what writing produces. -/
theorem decode?_eq_some_iff {text : List Char} {bs : Bytes} :
    decode? text = some bs ↔ text = encode bs := by
  constructor
  · intro h
    obtain ⟨read, rfl, htext⟩ := encode_of_decodeOnto? h
    exact htext.symm
  · rintro rfl
    exact decode?_encode bs

end FunctionHost.Base64
