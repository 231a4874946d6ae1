-- SUMMARY: The body of an event is read exactly if it is the base64 of some bytes.
import FunctionHost.Proofs.Base64
import FunctionHost.UrlEvent.Basic
import Mathlib.Data.Nat.Digits.Lemmas
import Mathlib.Tactic.Ring

/-! # Bodies of events

An event carries the body of its request in base64. Here it is said what such a text looks like,
without the functions that write and read it: letters of the alphabet that show the bits of the
bytes, filled up with zeros, and at most two marks of padding that complete the last group of four.
A text that is not of this form has one of four faults, and reading fails exactly on these. -/

namespace FunctionHost

namespace Base64

/-! ## The form of a text -/

/-- The characters of the alphabet, in the order of their values. -/
def alphabet : List Char :=
  "ABCDEFGHIJKLMNOPQRSTUVWXYZabcdefghijklmnopqrstuvwxyz0123456789+/".toList

/-- The number that digits show in a base, the first one being worth the most. -/
def number (base : Nat) (digits : List Nat) : Nat :=
  Nat.ofDigits base digits.reverse

/-- Letters and a number of marks of padding show a byte string. They complete groups of four, one
    for three bytes, and the letters show the number that the bytes show, with two zero bits added
    for each mark of padding. -/
structure Shows (letters : List Char) (padding : Nat) (bs : Bytes) : Prop where
  inAlphabet : ∀ c ∈ letters, c ∈ alphabet
  short : padding < 3
  length : 3 * (letters.length + padding) = 4 * (bs.length + padding)
  bits : number 64 (letters.map alphabet.idxOf) =
    number 256 (bs.map UInt8.toNat) * 4 ^ padding

/-- What is wrong with a text that is not the base64 of any bytes. -/
inductive Malformed (text : List Char) : Prop where
  /-- The last group is not complete. -/
  | length (incomplete : ¬ 4 ∣ text.length)
  /-- A character is neither in the alphabet nor the mark of padding. -/
  | foreign (c : Char) (mem : c ∈ text) (outside : c ∉ alphabet) (noMark : c ≠ '=')
  /-- A mark of padding is followed by something else than at most one other mark. -/
  | misplaced (before after : List Char) (eq : text = before ++ '=' :: after) (some : after ≠ [])
      (more : after ≠ ['='])
  /-- The bits that fill up the last letter are not zero. -/
  | filling (before : List Char) (last : Char) (padding : Nat)
      (eq : text = before ++ last :: List.replicate padding '=') (letter : last ∈ alphabet)
      (rest : ¬ 4 ^ padding ∣ alphabet.idxOf last)

/-! ## Letters and numbers -/

theorem alphabet_eq : alphabet = (List.range 64).map digit := by
  decide +kernel

theorem digit_mem_alphabet {v : Nat} (h : v < 64) : digit v ∈ alphabet := by
  rw [alphabet_eq]
  exact List.mem_map.2 ⟨v, List.mem_range.2 h, rfl⟩

theorem idxOf_digit {v : Nat} (h : v < 64) : alphabet.idxOf (digit v) = v := by
  revert v
  decide +kernel

theorem mem_alphabet_iff {c : Char} : c ∈ alphabet ↔ ∃ v, value? c = some v := by
  constructor
  · intro h
    rw [alphabet_eq] at h
    obtain ⟨v, hv, rfl⟩ := List.mem_map.1 h
    exact ⟨v, value?_digit (List.mem_range.1 hv)⟩
  · rintro ⟨v, h⟩
    obtain ⟨hv, rfl⟩ := digit_of_value? h
    exact digit_mem_alphabet hv

theorem not_mem_alphabet_of_unread {c : Char} (unread : value? c = none) : c ∉ alphabet := by
  intro mem
  obtain ⟨v, hv⟩ := mem_alphabet_iff.1 mem
  rw [unread] at hv
  cases hv

theorem padding_not_mem_alphabet : '=' ∉ alphabet := by
  decide +kernel

theorem idxOf_of_value? {c : Char} {v : Nat} (h : value? c = some v) : alphabet.idxOf c = v := by
  obtain ⟨hv, rfl⟩ := digit_of_value? h
  exact idxOf_digit hv

theorem number_append (base : Nat) (first second : List Nat) :
    number base (first ++ second) =
      number base first * base ^ second.length + number base second := by
  simp only [number, List.reverse_append, Nat.ofDigits_append, List.length_reverse]
  ring

theorem number_concat (base : Nat) (first : List Nat) (last : Nat) :
    number base (first ++ [last]) = number base first * base + last := by
  rw [number_append]
  simp [number]

/-! ## What is written -/

variable {letters rest : List Char} {padding : Nat} {bs first : Bytes}

theorem Shows.of_digits (digits : List Nat) (small : ∀ v ∈ digits, v < 64) (short : padding < 3)
    (length : 3 * (digits.length + padding) = 4 * (bs.length + padding))
    (bits : number 64 digits = number 256 (bs.map UInt8.toNat) * 4 ^ padding) :
    Shows (digits.map digit) padding bs where
  inAlphabet := by
    intro c hc
    obtain ⟨v, hv, rfl⟩ := List.mem_map.1 hc
    exact digit_mem_alphabet (small v hv)
  short := short
  length := by rwa [List.length_map]
  bits := by
    have hdigits : (digits.map digit).map alphabet.idxOf = digits := by
      rw [List.map_map]
      exact List.map_congr_left (fun v hv => idxOf_digit (small v hv)) |>.trans digits.map_id
    rw [hdigits, bits]

/-- Whole groups in front are worth the more, the more letters follow. -/
theorem Shows.append (front : Shows letters 0 first) (back : Shows rest padding bs) :
    Shows (letters ++ rest) padding (first ++ bs) where
  inAlphabet := by
    intro c hc
    rcases List.mem_append.1 hc with hc | hc
    · exact front.inAlphabet c hc
    · exact back.inAlphabet c hc
  short := back.short
  length := by
    have hfront := front.length
    have hback := back.length
    simp only [List.length_append]
    omega
  bits := by
    have hpower : 64 ^ rest.length = 256 ^ bs.length * 4 ^ padding := by
      have hlength := back.length
      calc 64 ^ rest.length = 4 ^ (3 * rest.length) := by rw [pow_mul]; rfl
        _ = 4 ^ (4 * bs.length + padding) := by congr 1; omega
        _ = 256 ^ bs.length * 4 ^ padding := by rw [pow_add, pow_mul]; rfl
    simp only [List.map_append, number_append, List.length_map, front.bits, back.bits, hpower]
    ring

theorem shows_full (a b c : UInt8) : Shows (full a b c) 0 [a, b, c] := by
  have ha : a.toNat < 256 := a.toNat_lt
  have hb : b.toNat < 256 := b.toNat_lt
  have hc : c.toNat < 256 := c.toNat_lt
  refine Shows.of_digits [_, _, _, _] ?_ (by decide) rfl ?_
  · simp only [List.mem_cons, List.not_mem_nil, or_false, forall_eq_or_imp, forall_eq]
    omega
  · simp [number, Nat.ofDigits_cons]
    omega

theorem shows_two (a b : UInt8) :
    ∃ letters, two a b = letters ++ ['='] ∧ Shows letters 1 [a, b] := by
  have ha : a.toNat < 256 := a.toNat_lt
  have hb : b.toNat < 256 := b.toNat_lt
  refine ⟨_, rfl, Shows.of_digits [_, _, _] ?_ (by decide) rfl ?_⟩
  · simp only [List.mem_cons, List.not_mem_nil, or_false, forall_eq_or_imp, forall_eq]
    omega
  · simp [number, Nat.ofDigits_cons]
    omega

theorem shows_single (a : UInt8) :
    ∃ letters, single a = letters ++ ['=', '='] ∧ Shows letters 2 [a] := by
  have ha : a.toNat < 256 := a.toNat_lt
  refine ⟨_, rfl, Shows.of_digits [_, _] ?_ (by decide) rfl ?_⟩
  · simp only [List.mem_cons, List.not_mem_nil, or_false, forall_eq_or_imp, forall_eq]
    omega
  · simp [number, Nat.ofDigits_cons]
    omega

/-- What is written is letters and marks of padding that show the bytes. -/
theorem shows_encode : ∀ bs : Bytes, ∃ letters padding,
    encode bs = letters ++ List.replicate padding '=' ∧ Shows letters padding bs
  | a :: b :: c :: rest => by
    obtain ⟨letters, padding, htext, shown⟩ := shows_encode rest
    refine ⟨full a b c ++ letters, padding, ?_, (shows_full a b c).append shown⟩
    rw [encode_cons, htext, List.append_assoc]
  | [a, b] => by
    obtain ⟨letters, htext, shown⟩ := shows_two a b
    exact ⟨letters, 1, by simp [encode, encodeOnto, htext], shown⟩
  | [a] => by
    obtain ⟨letters, htext, shown⟩ := shows_single a
    exact ⟨letters, 2, by simp [encode, encodeOnto, htext], shown⟩
  | [] => ⟨[], 0, by simp [encode, encodeOnto], by simp, by decide, rfl, by simp [number]⟩

/-! ## What is not read -/

variable {text : List Char}

/-- Whole groups in front do not mend a text. -/
theorem Malformed.append (front : List Char) (whole : 4 ∣ front.length) (h : Malformed text) :
    Malformed (front ++ text) := by
  cases h with
  | length incomplete =>
    apply Malformed.length
    intro complete
    rw [List.length_append] at complete
    exact incomplete ((Nat.dvd_add_right whole).1 complete)
  | foreign c mem outside noMark =>
    exact .foreign c (List.mem_append_right front mem) outside noMark
  | misplaced before after eq some more =>
    exact .misplaced (front ++ before) after (by rw [eq, List.append_assoc]) some more
  | filling before last padding eq letter rest =>
    exact .filling (front ++ before) last padding (by rw [eq, List.append_assoc]) letter rest

/-- A character in front of the end that is not read is foreign or a mark in a wrong place. -/
theorem Malformed.of_unread (before : List Char) {after : List Char} {c : Char}
    (unread : value? c = none) (some : after ≠ []) (more : after ≠ ['=']) :
    Malformed (before ++ c :: after) := by
  rcases eq_or_ne c '=' with rfl | noMark
  · exact .misplaced before after rfl some more
  · exact .foreign c (by simp) (not_mem_alphabet_of_unread unread) noMark

theorem unread_of_ofFull? {a b c d : Char} (h : ofFull? a b c d = none) :
    value? a = none ∨ value? b = none ∨ value? c = none ∨ value? d = none := by
  unfold ofFull? at h
  cases readA : value? a with
  | none => exact .inl rfl
  | some p =>
    cases readB : value? b with
    | none => exact .inr (.inl rfl)
    | some q =>
      cases readC : value? c with
      | none => exact .inr (.inr (.inl rfl))
      | some r =>
        cases readD : value? d with
        | none => exact .inr (.inr (.inr rfl))
        | some s =>
          rw [readA, readB, readC, readD] at h
          cases h

/-- A group of four that is not read spoils the text that it begins. -/
theorem malformed_of_ofFull? {a b c d : Char} {rest : List Char} (h : ofFull? a b c d = none)
    (more : d = '=' → rest ≠ []) : Malformed (a :: b :: c :: d :: rest) := by
  rcases unread_of_ofFull? h with unread | unread | unread | unread
  · exact .of_unread [] unread (by simp) (by simp)
  · exact .of_unread [a] unread (by simp) (by simp)
  · apply Malformed.of_unread [a, b] unread
    · simp
    · intro heq
      obtain ⟨hd, hrest⟩ := List.cons.inj heq
      exact more hd hrest
  · rcases eq_or_ne d '=' with rfl | noMark
    · rcases eq_or_ne rest ['='] with rfl | others
      · exact .length (show ¬ 4 ∣ 5 by decide)
      · exact .of_unread [a, b, c] unread (more rfl) others
    · exact .foreign d (by simp) (not_mem_alphabet_of_unread unread) noMark

/-- Letters whose last one has bits to spare are not read only if it is not filled with zeros. -/
theorem malformed_of_ofTwo? {a b c : Char} (h : ofTwo? a b c = none) (noMark : c ≠ '=') :
    Malformed [a, b, c, '='] := by
  unfold ofTwo? at h
  cases readA : value? a with
  | none => exact .of_unread [] readA (by simp) (by simp)
  | some p =>
    cases readB : value? b with
    | none => exact .of_unread [a] readB (by simp) (by simp)
    | some q =>
      cases readC : value? c with
      | none => exact .foreign c (by simp) (not_mem_alphabet_of_unread readC) noMark
      | some r =>
        refine .filling [a, b] c 1 rfl (mem_alphabet_iff.2 ⟨r, readC⟩) ?_
        rw [idxOf_of_value? readC]
        intro filled
        rw [readA, readB, readC] at h
        simp only [Option.bind_eq_bind, Option.bind_some] at h
        rw [if_pos (by omega)] at h
        cases h

theorem malformed_of_ofSingle? {a b : Char} (h : ofSingle? a b = none) :
    Malformed [a, b, '=', '='] := by
  unfold ofSingle? at h
  cases readA : value? a with
  | none => exact .of_unread [] readA (by simp) (by simp)
  | some p =>
    cases readB : value? b with
    | none => exact .of_unread [a] readB (by simp) (by simp)
    | some q =>
      refine .filling [a] b 2 rfl (mem_alphabet_iff.2 ⟨q, readB⟩) ?_
      rw [idxOf_of_value? readB]
      intro filled
      rw [readA, readB] at h
      simp only [Option.bind_eq_bind, Option.bind_some] at h
      rw [if_pos (by omega)] at h
      cases h

theorem malformed_of_decodeOnto? {done : Bytes} (h : decodeOnto? done text = none) :
    Malformed text := by
  fun_induction decodeOnto? done text with
  | case1 => cases h
  | case2 done a b c d =>
    have last : ofLast? a b c d = none := Option.map_eq_none_iff.1 h
    unfold ofLast? at last
    split at last
    · next hd =>
      subst hd
      split at last
      · next hc =>
        subst hc
        exact malformed_of_ofSingle? last
      · next hc => exact malformed_of_ofTwo? last hc
    · next hd => exact malformed_of_ofFull? last fun heq => absurd heq hd
  | case3 done a b c d rest some found full ih =>
    exact (ih h).append [a, b, c, d] (Nat.dvd_refl 4)
  | case4 done a b c d rest some unread => exact malformed_of_ofFull? unread fun _ => some
  | case5 text done notEmpty notOne notMore =>
    apply Malformed.length
    intro complete
    rcases text with _ | ⟨a, _ | ⟨b, _ | ⟨c, _ | ⟨d, rest⟩⟩⟩⟩
    · exact notEmpty rfl
    · simp at complete
    · simp at complete
    · simp at complete
    · exact notMore a b c d rest rfl

theorem Shows.padding_not_mem (h : Shows letters padding bs) : '=' ∉ letters :=
  fun mem => padding_not_mem_alphabet (h.inAlphabet '=' mem)

/-- Behind a mark of padding stands at most one other. -/
theorem Shows.after_mark (h : Shows letters padding bs) {before after : List Char}
    (eq : letters ++ List.replicate padding '=' = before ++ '=' :: after) :
    after = [] ∨ after = ['='] := by
  have hshort := h.short
  have marks : ∃ earlier, List.replicate padding '=' = earlier ++ '=' :: after := by
    rcases List.append_eq_append_iff.1 eq with ⟨earlier, -, hmarks⟩ | ⟨inner, hletters, hmarks⟩
    · exact ⟨earlier, hmarks⟩
    · cases inner with
      | nil => exact ⟨[], hmarks.symm⟩
      | cons c inner =>
        obtain ⟨rfl, -⟩ := List.cons.inj hmarks
        exact absurd (by simp [hletters]) h.padding_not_mem
  obtain ⟨earlier, hmarks⟩ := marks
  obtain ⟨hlength, hmem⟩ := List.eq_replicate_iff.1 hmarks.symm
  rw [List.length_append, List.length_cons] at hlength
  match after with
  | [] => exact .inl rfl
  | [c] => exact .inr (by rw [hmem c (by simp)])
  | _ :: _ :: _ =>
    simp only [List.length_cons] at hlength
    omega

/-- The last letter, before the marks of padding, is filled up with zeros. -/
theorem Shows.filled (h : Shows letters padding bs) {before : List Char} {last : Char}
    {marks : Nat} (eq : letters ++ List.replicate padding '=' =
      before ++ last :: List.replicate marks '=') (letter : last ∈ alphabet) :
    4 ^ marks ∣ alphabet.idxOf last := by
  have notMark : last ∉ List.replicate padding '=' := by
    intro mem
    rw [List.eq_of_mem_replicate mem] at letter
    exact padding_not_mem_alphabet letter
  rcases List.append_eq_append_iff.1 eq with ⟨earlier, -, hmarks⟩ | ⟨inner, hletters, hmarks⟩
  · exact absurd (by simp [hmarks]) notMark
  cases inner with
  | nil =>
    rw [List.nil_append] at hmarks
    exact absurd (hmarks ▸ List.mem_cons_self) notMark
  | cons c inner =>
    obtain ⟨rfl, htail⟩ := List.cons.inj hmarks
    obtain ⟨hlength, hmem⟩ := List.eq_replicate_iff.1 htail.symm
    cases inner with
    | cons c' inner =>
      rw [hmem c' (by simp)] at hletters
      exact absurd (by simp [hletters]) h.padding_not_mem
    | nil =>
      obtain rfl : padding = marks := by simpa using hlength
      have hbits := h.bits
      rw [hletters, List.map_append, List.map_singleton, number_concat] at hbits
      have whole : 4 ^ padding ∣ 64 := by
        have hshort := h.short
        interval_cases padding <;> decide
      exact (Nat.dvd_add_right (whole.mul_left _)).1 ⟨_, hbits.trans (Nat.mul_comm _ _)⟩

/-- No bytes show in a malformed text. -/
theorem Shows.not_malformed (h : Shows letters padding bs) :
    ¬ Malformed (letters ++ List.replicate padding '=') := by
  intro malformed
  cases malformed with
  | length incomplete =>
    have hlength := h.length
    apply incomplete
    rw [List.length_append, List.length_replicate]
    omega
  | foreign c mem outside noMark =>
    rcases List.mem_append.1 mem with mem | mem
    · exact outside (h.inAlphabet c mem)
    · exact noMark (List.eq_of_mem_replicate mem)
  | misplaced before after eq some more =>
    rcases h.after_mark eq with none | one
    · exact some none
    · exact more one
  | filling before last marks eq letter rest => exact rest (h.filled eq letter)

/-- Reading fails exactly on malformed texts. -/
theorem decode?_eq_none_iff : decode? text = none ↔ Malformed text := by
  constructor
  · exact malformed_of_decodeOnto?
  · intro malformed
    cases found : decode? text with
    | none => rfl
    | some bs =>
      obtain ⟨letters, padding, htext, shown⟩ := shows_encode bs
      rw [decode?_eq_some_iff.1 found, htext] at malformed
      exact absurd malformed shown.not_malformed

end Base64

/-! ## Bodies -/

namespace UrlEvent

open Base64 (Malformed Shows)

variable (event : UrlEvent) (method : Http.Method) (remainder : String) (uri : Http.Uri)
  (headers : Http.Headers) (bytes : Bytes)

/-- Reading the body of an event gives some bytes exactly if the event of a request with these bytes
    has that body, and nothing exactly if the text has a fault. What the event of a request carries
    are letters and marks of padding that show its bytes. -/
theorem body_read_iff_written :
    (event.decodedBody? = some bytes ↔
      event.body = (ofParts method remainder uri headers bytes).body) ∧
    (event.decodedBody? = none ↔ Malformed event.body.toList) ∧
    ∃ letters padding, (ofParts method remainder uri headers bytes).body.toList =
      letters ++ List.replicate padding '=' ∧ Shows letters padding bytes := by
  refine ⟨?_, ?_, ?_⟩
  · unfold decodedBody? ofParts
    rw [Base64.decode?_eq_some_iff]
    constructor
    · intro written
      rw [← written, String.ofList_toList]
    · intro written
      rw [written, String.toList_ofList]
  · exact Base64.decode?_eq_none_iff
  · obtain ⟨letters, padding, htext, shown⟩ := Base64.shows_encode bytes
    refine ⟨letters, padding, ?_, shown⟩
    unfold ofParts
    rw [String.toList_ofList, htext]

end UrlEvent

end FunctionHost
