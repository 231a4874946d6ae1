-- SUMMARY: Reading cuts bytes into pieces, so lossy decoding adds nothing but its mark.
import FunctionHost.Proofs.Text.Utf8

/-! # Bytes and their pieces

Reading cuts a byte string into stretches, and every piece stands for one of them: a character for
exactly its own bytes, and an ill-formed piece for at least one byte. So no byte is lost, what was
decoded strictly is encoded back as it was, and every character of a lossily decoded text was there
in the bytes, unless it is the mark U+FFFD. -/

namespace FunctionHost.Text.Utf8

/-- Bytes are cut into the stretches of some pieces: a character has its own bytes, and an
    ill-formed piece has any bytes, but not none. -/
inductive Spells : Bytes → List Piece → Prop where
  | nil : Spells [] []
  | scalar (c : Char) {bs : Bytes} {ps : List Piece} (rest : Spells bs ps) :
      Spells (String.utf8EncodeChar c ++ bs) (.scalar c :: ps)
  | broken (stretch : Bytes) (some : stretch ≠ []) {bs : Bytes} {ps : List Piece}
      (rest : Spells bs ps) : Spells (stretch ++ bs) (.broken :: ps)

/-- Bytes that were read of an unfinished character. However the reader goes on to finish it, they
    and the bytes that follow are those of the character that it finds. -/
inductive Begins : Bytes → Unfinished → Prop where
  | last {read : Bytes} {p : Unfinished} (some : read ≠ []) (due : p.missing ≤ 1)
      (finishes : ∀ b, p.low ≤ b → b ≤ p.high →
        String.utf8EncodeChar (Char.ofNat (p.extend b)) = read ++ [b]) : Begins read p
  | more {read : Bytes} {p : Unfinished} (some : read ≠ []) (due : ¬ p.missing ≤ 1)
      (continues : ∀ b, p.low ≤ b → b ≤ p.high →
        Begins (read ++ [b]) ⟨p.extend b, p.missing - 1, 0x80, 0xBF⟩) : Begins read p

theorem Begins.ne_nil {read : Bytes} {p : Unfinished} (h : Begins read p) : read ≠ [] := by
  cases h with
  | last some => exact some
  | more some => exact some

/-! ## The bytes of a character -/

theorem val_ofNat {v : Nat} (h : v < 0xD800 ∨ (0xDFFF < v ∧ v < 0x110000)) :
    (Char.ofNat v).val.toNat = v := by
  have valid : v.isValidChar := h
  rw [Char.ofNat, dif_pos valid]
  rfl

theorem ofNat_of_toNat {b : UInt8} {n : Nat} (h : n = b.toNat) : UInt8.ofNat n = b :=
  h ▸ UInt8.ofNat_toNat

theorem utf8EncodeChar_one {v : Nat} {a : UInt8} (high : v < 0x80) (ha : v = a.toNat) :
    String.utf8EncodeChar (Char.ofNat v) = [a] := by
  rw [String.utf8EncodeChar, val_ofNat (.inl (by omega)), if_pos (by omega), ofNat_of_toNat ha]

theorem utf8EncodeChar_two {v : Nat} {a b : UInt8} (low : 0x80 ≤ v) (high : v < 0x800)
    (ha : v / 64 + 192 = a.toNat) (hb : v % 64 + 128 = b.toNat) :
    String.utf8EncodeChar (Char.ofNat v) = [a, b] := by
  rw [String.utf8EncodeChar, val_ofNat (.inl (by omega)), if_neg (by omega), if_pos (by omega),
    ofNat_of_toNat (b := a) (by omega), ofNat_of_toNat hb]

theorem utf8EncodeChar_three {v : Nat} {a b c : UInt8} (low : 0x800 ≤ v) (high : v < 0x10000)
    (scalar : v < 0xD800 ∨ 0xDFFF < v) (ha : v / 4096 + 224 = a.toNat)
    (hb : v / 64 % 64 + 128 = b.toNat) (hc : v % 64 + 128 = c.toNat) :
    String.utf8EncodeChar (Char.ofNat v) = [a, b, c] := by
  rw [String.utf8EncodeChar, val_ofNat (by omega), if_neg (by omega), if_neg (by omega),
    if_pos (by omega), ofNat_of_toNat (b := a) (by omega), ofNat_of_toNat hb, ofNat_of_toNat hc]

theorem utf8EncodeChar_four {v : Nat} {a b c d : UInt8} (low : 0x10000 ≤ v) (high : v < 0x110000)
    (ha : v / 262144 + 240 = a.toNat) (hb : v / 4096 % 64 + 128 = b.toNat)
    (hc : v / 64 % 64 + 128 = c.toNat) (hd : v % 64 + 128 = d.toNat) :
    String.utf8EncodeChar (Char.ofNat v) = [a, b, c, d] := by
  rw [String.utf8EncodeChar, val_ofNat (by omega), if_neg (by omega), if_neg (by omega),
    if_neg (by omega), ofNat_of_toNat (b := a) (by omega), ofNat_of_toNat hb, ofNat_of_toNat hc,
    ofNat_of_toNat hd]

/-! ## Characters by their first byte -/

theorem begins_two {a : UInt8} (low : 0xC2 ≤ a.toNat) (high : a.toNat < 0xE0) :
    Begins [a] ⟨a.toNat - 0xC0, 1, 0x80, 0xBF⟩ := by
  refine .last (List.cons_ne_nil _ _) (Nat.le_refl 1) fun b hb hb' => ?_
  have atLeast : 128 ≤ b.toNat := UInt8.le_iff_toNat_le.1 hb
  have atMost : b.toNat ≤ 191 := UInt8.le_iff_toNat_le.1 hb'
  dsimp only [Unfinished.extend]
  exact utf8EncodeChar_two (by omega) (by omega) (by omega) (by omega)

theorem begins_three {a low high : UInt8} (three : 0xE0 ≤ a.toNat) (three' : a.toNat < 0xF0)
    (hlow : 0x80 ≤ low.toNat) (hhigh : high.toNat ≤ 0xBF)
    (overlong : a.toNat = 0xE0 → 0xA0 ≤ low.toNat)
    (surrogate : a.toNat = 0xED → high.toNat ≤ 0x9F) :
    Begins [a] ⟨a.toNat - 0xE0, 2, low, high⟩ := by
  refine .more (List.cons_ne_nil _ _) (show ¬ 2 ≤ 1 by omega) fun b hb hb' => ?_
  refine .last (List.cons_ne_nil _ _) (Nat.le_refl 1) fun c hc hc' => ?_
  have hb : low.toNat ≤ b.toNat := UInt8.le_iff_toNat_le.1 hb
  have hb' : b.toNat ≤ high.toNat := UInt8.le_iff_toNat_le.1 hb'
  have hc : 128 ≤ c.toNat := UInt8.le_iff_toNat_le.1 hc
  have hc' : c.toNat ≤ 191 := UInt8.le_iff_toNat_le.1 hc'
  dsimp only [Unfinished.extend]
  exact utf8EncodeChar_three (by omega) (by omega) (by omega) (by omega) (by omega) (by omega)

theorem begins_four {a low high : UInt8} (four : 0xF0 ≤ a.toNat) (four' : a.toNat ≤ 0xF4)
    (hlow : 0x80 ≤ low.toNat) (hhigh : high.toNat ≤ 0xBF)
    (overlong : a.toNat = 0xF0 → 0x90 ≤ low.toNat)
    (last : a.toNat = 0xF4 → high.toNat ≤ 0x8F) :
    Begins [a] ⟨a.toNat - 0xF0, 3, low, high⟩ := by
  refine .more (List.cons_ne_nil _ _) (show ¬ 3 ≤ 1 by omega) fun b hb hb' => ?_
  refine .more (List.cons_ne_nil _ _) (show ¬ 2 ≤ 1 by omega) fun c hc hc' => ?_
  refine .last (List.cons_ne_nil _ _) (Nat.le_refl 1) fun d hd hd' => ?_
  have hb : low.toNat ≤ b.toNat := UInt8.le_iff_toNat_le.1 hb
  have hb' : b.toNat ≤ high.toNat := UInt8.le_iff_toNat_le.1 hb'
  have hc : 128 ≤ c.toNat := UInt8.le_iff_toNat_le.1 hc
  have hc' : c.toNat ≤ 191 := UInt8.le_iff_toNat_le.1 hc'
  have hd : 128 ≤ d.toNat := UInt8.le_iff_toNat_le.1 hd
  have hd' : d.toNat ≤ 191 := UInt8.le_iff_toNat_le.1 hd'
  dsimp only [Unfinished.extend]
  exact utf8EncodeChar_four (by omega) (by omega) (by omega) (by omega) (by omega) (by omega)

/-- The ranges of the second byte leave out the overlong forms, the surrogates and everything above
    the last character. -/
theorem begins_ofLead? {a : UInt8} {p : Unfinished} (h : Unfinished.ofLead? a = some p) :
    Begins [a] p := by
  simp only [Unfinished.ofLead?, UInt8.lt_iff_toNat_lt, ← UInt8.toNat_inj,
    UInt8.reduceToNat] at h
  split at h
  · cases h
  split at h
  · rw [← Option.some.inj h]
    exact begins_two (by omega) (by omega)
  split at h
  · next first =>
    have bits : a.toNat - 0xE0 = 0 := by omega
    rw [← Option.some.inj h, ← bits]
    refine begins_three (by omega) (by omega) ?_ ?_ ?_ ?_ <;> simp [first]
  split at h
  · next last =>
    have bits : a.toNat - 0xE0 = 0xD := by omega
    rw [← Option.some.inj h, ← bits]
    refine begins_three (by omega) (by omega) ?_ ?_ ?_ ?_ <;> simp [last]
  split at h
  · rw [← Option.some.inj h]
    refine begins_three (by omega) (by omega) ?_ ?_ ?_ ?_ <;> simp <;> omega
  split at h
  · next first =>
    have bits : a.toNat - 0xF0 = 0 := by omega
    rw [← Option.some.inj h, ← bits]
    refine begins_four (by omega) (by omega) ?_ ?_ ?_ ?_ <;> simp [first]
  split at h
  · rw [← Option.some.inj h]
    refine begins_four (by omega) (by omega) ?_ ?_ ?_ ?_ <;> simp <;> omega
  split at h
  · next last =>
    have bits : a.toNat - 0xF0 = 4 := by omega
    rw [← Option.some.inj h, ← bits]
    refine begins_four (by omega) (by omega) ?_ ?_ ?_ ?_ <;> simp [last]
  · cases h

/-! ## From byte to byte -/

theorem begin_cases (b : UInt8) :
    (∃ c, String.utf8EncodeChar c = [b] ∧ begin b = ([.scalar c], none)) ∨
    (∃ p, Begins [b] p ∧ begin b = ([], some p)) ∨ begin b = ([.broken], none) := by
  simp only [begin]
  split
  · next single =>
    have hb : b.toNat < 128 := UInt8.lt_iff_toNat_lt.1 single
    exact .inl ⟨_, utf8EncodeChar_one hb rfl, rfl⟩
  · split
    · next p lead => exact .inr (.inl ⟨p, begins_ofLead? lead, rfl⟩)
    · exact .inr (.inr rfl)

theorem proceed_cases {read : Bytes} {p : Unfinished} (h : Begins read p) (b : UInt8) :
    (∃ c, String.utf8EncodeChar c = read ++ [b] ∧ proceed p b = ([.scalar c], none)) ∨
    (∃ q, Begins (read ++ [b]) q ∧ proceed p b = ([], some q)) ∨
    proceed p b = (.broken :: (begin b).1, (begin b).2) := by
  by_cases inside : p.low ≤ b ∧ b ≤ p.high
  · cases h with
    | last some due finishes =>
      exact .inl ⟨_, finishes b inside.1 inside.2, by rw [proceed, if_pos inside, if_pos due]⟩
    | more some due continues =>
      exact .inr (.inl ⟨_, continues b inside.1 inside.2, by
        rw [proceed, if_pos inside, if_neg due]⟩)
  · exact .inr (.inr (by rw [proceed, if_neg inside]))

theorem piecesFrom_step (standing : Option Unfinished) (b : UInt8) (rest : Bytes) :
    piecesFrom [] standing (b :: rest) =
      (step standing b).1 ++ piecesFrom [] (step standing b).2 rest := by
  have h : step standing b = ((step standing b).1, (step standing b).2) := rfl
  rw [piecesFrom_cons h, piecesFrom_eq, List.append_nil, List.reverse_reverse]

/-- The bytes from where the reader stands on have their pieces, together with those it has read of
    an unfinished character. -/
theorem spells_piecesFrom (bs : Bytes) :
    Spells bs (piecesFrom [] none bs) ∧
    ∀ read p, Begins read p → Spells (read ++ bs) (piecesFrom [] (some p) bs) := by
  induction bs with
  | nil => exact ⟨.nil, fun read p h => .broken read h.ne_nil .nil⟩
  | cons b rest ih =>
    have between : Spells (b :: rest) (piecesFrom [] none (b :: rest)) := by
      rcases begin_cases b with ⟨c, hc, hbegin⟩ | ⟨p, begins, hbegin⟩ | hbegin
      · rw [piecesFrom_step, step, hbegin, ← List.singleton_append, ← hc]
        exact .scalar c ih.1
      · rw [piecesFrom_step, step, hbegin]
        exact ih.2 [b] p begins
      · rw [piecesFrom_step, step, hbegin]
        exact .broken [b] (List.cons_ne_nil _ _) ih.1
    refine ⟨between, fun read p h => ?_⟩
    rcases proceed_cases h b with ⟨c, hc, hproceed⟩ | ⟨q, begins, hproceed⟩ | hproceed
    · rw [piecesFrom_step, step, hproceed, List.append_cons, ← hc]
      exact .scalar c ih.1
    · rw [piecesFrom_step, step, hproceed, List.append_cons]
      exact ih.2 _ q begins
    · -- The byte ends the stretch and is read again as the beginning of something else.
      rw [piecesFrom_step, step, hproceed, List.cons_append]
      rw [piecesFrom_step] at between
      exact .broken read h.ne_nil between

theorem spells_pieces (bs : Bytes) : Spells bs (pieces bs) :=
  (spells_piecesFrom bs).1

/-! ## What follows of decoded texts -/

variable {bs : Bytes} {ps : List Piece} {c : Char}

theorem Spells.eq_encode (h : Spells bs ps) (whole : .broken ∉ ps) :
    encode (ps.filterMap Piece.char?) = bs := by
  induction h with
  | nil => rfl
  | scalar c rest ih =>
    have hrest := ih fun hbroken => whole (List.mem_cons_of_mem _ hbroken)
    simpa [encode, Piece.char?] using hrest
  | broken stretch some rest ih => exact absurd List.mem_cons_self whole

/-- What strict decoding reads is written back byte for byte. -/
theorem encode_of_decode? {text : List Char} (h : decode? bs = some text) : encode text = bs := by
  simp only [decode?] at h
  split at h
  · cases h
  · next whole =>
    rw [← Option.some.inj h]
    exact (spells_pieces bs).eq_encode (by simpa using whole)

theorem lossy_of_text? {text : String} (h : text? bs = some text) : lossy bs = text := by
  obtain ⟨cs, hdecode, rfl⟩ := Option.map_eq_some_iff.1 h
  rw [lossy, ← encode_of_decode? hdecode, decodeLossy_encode]

theorem bytes_of_text? {text : String} (h : text? bs = some text) : bytes text = bs := by
  obtain ⟨cs, hdecode, rfl⟩ := Option.map_eq_some_iff.1 h
  rw [bytes, String.toList_ofList, encode_of_decode? hdecode]

/-- Every character of a piece has its bytes among those that were read. -/
theorem Spells.subset (h : Spells bs ps) (mem : .scalar c ∈ ps) :
    String.utf8EncodeChar c ⊆ bs := by
  induction h with
  | nil => cases mem
  | scalar d rest ih =>
    rcases List.mem_cons.1 mem with heq | mem
    · cases heq
      exact List.subset_append_left _ _
    · exact List.subset_append_of_subset_right _ (ih mem)
  | broken stretch some rest ih =>
    rcases List.mem_cons.1 mem with heq | mem
    · cases heq
    · exact List.subset_append_of_subset_right _ (ih mem)

/-- A lossily decoded text only has characters that were there in the bytes, and the mark for what
    is ill-formed. -/
theorem mem_decodeLossy (h : c ∈ decodeLossy bs) :
    c = '\uFFFD' ∨ String.utf8EncodeChar c ⊆ bs := by
  obtain ⟨piece, mem, rfl⟩ := List.mem_map.1 h
  cases piece with
  | broken => exact .inl rfl
  | scalar c => exact .inr ((spells_pieces bs).subset mem)

theorem Spells.eq_nil_iff (h : Spells bs ps) : ps = [] ↔ bs = [] := by
  cases h with
  | nil => simp
  | scalar c rest => simp [String.utf8EncodeChar_ne_nil]
  | broken stretch some rest => simp [some]

/-- A text that was decoded lossily is empty only if there were no bytes. -/
theorem lossy_eq_empty_iff (bs : Bytes) : lossy bs = "" ↔ bs = [] := by
  rw [← (spells_pieces bs).eq_nil_iff, lossy, decodeLossy]
  simp

end FunctionHost.Text.Utf8
