-- SUMMARY: Which texts are time limits, which are numbers that are too long, and which are no numbers.
import FunctionHost.Settings.Timeout

/-! # Time limits as written

A time limit is written in decimal digits, with at most one plus sign before them. The reader gives
up as soon as the digits read so far make a number of more than 64 bits. Further digits only make
it greater, so this happens exactly to those texts whose number is too great, however many zeros
they begin with. -/

namespace FunctionHost.Settings

/-- A text spells a number: decimal digits, with at most one plus sign before them. -/
def Spells (raw : String) (n : Nat) : Prop :=
  ∃ digits : List Char, (raw.toList = digits ∨ raw.toList = '+' :: digits) ∧ digits ≠ [] ∧
    (∀ d ∈ digits, d.isDigit = true) ∧ Nat.ofDigitChars 10 digits 0 = n

/-- What is left of a text without the plus sign before something else. -/
def unsigned : List Char → List Char
  | '+' :: c :: rest => c :: rest
  | cs => cs

theorem unsigned_digits {digits : List Char} (h : ∀ d ∈ digits, d.isDigit = true) :
    unsigned digits = digits := by
  unfold unsigned
  split
  · exact absurd (h '+' List.mem_cons_self) (by decide)
  · rfl

theorem unsigned_plus {digits : List Char} (h : digits ≠ []) :
    unsigned ('+' :: digits) = digits := by
  cases digits with
  | nil => exact absurd rfl h
  | cons => rfl

theorem eq_unsigned (cs : List Char) : cs = unsigned cs ∨ cs = '+' :: unsigned cs := by
  unfold unsigned
  split
  · exact .inr rfl
  · exact .inl rfl

theorem spells_iff {raw : String} {n : Nat} : Spells raw n ↔ unsigned raw.toList ≠ [] ∧
    (∀ d ∈ unsigned raw.toList, d.isDigit = true) ∧
    Nat.ofDigitChars 10 (unsigned raw.toList) 0 = n := by
  constructor
  · rintro ⟨digits, written, nonempty, decimal, value⟩
    have left : unsigned raw.toList = digits := by
      rcases written with written | written <;> rw [written]
      · exact unsigned_digits decimal
      · exact unsigned_plus nonempty
    rw [left]
    exact ⟨nonempty, decimal, value⟩
  · intro h
    exact ⟨_, eq_unsigned _, h⟩

/-- Further digits make a number no smaller. -/
theorem le_ofDigitChars (value : Nat) (digits : List Char) :
    value ≤ Nat.ofDigitChars 10 digits value := by
  induction digits generalizing value with
  | nil => simp
  | cons d rest ih =>
    rw [Nat.ofDigitChars_cons]
    exact Nat.le_trans (by omega) (ih _)

/-- Digits are read to their end exactly if they make a number of 64 bits. -/
theorem readDigits_eq_ok_iff {value n : Nat} {cs : List Char} (fits : value < UInt64.size) :
    readDigits value cs = .ok n ↔
      (∀ c ∈ cs, c.isDigit = true) ∧ Nat.ofDigitChars 10 cs value = n ∧ n < UInt64.size := by
  induction cs generalizing value with
  | nil =>
    rw [readDigits, Nat.ofDigitChars_nil, Except.ok.injEq]
    constructor
    · rintro rfl
      exact ⟨nofun, rfl, fits⟩
    · exact fun ⟨_, read, _⟩ => read
  | cons c rest ih =>
    have next : 10 * value + (c.toNat - '0'.toNat) = value * 10 + (c.toNat - 48) := by
      rw [Nat.mul_comm]
      rfl
    rw [readDigits, Nat.ofDigitChars_cons, next, List.forall_mem_cons]
    generalize value * 10 + (c.toNat - 48) = next
    by_cases digit : c.isDigit = true
    · by_cases small : next < UInt64.size
      · simp only [digit, small, if_true, ih small, true_and]
      · -- What is read so far is too much already, and stays so.
        have grows := le_ofDigitChars next rest
        simp only [digit, small, if_true, if_false]
        exact iff_of_false nofun fun ⟨_, _, _⟩ => by omega
    · rw [if_neg digit]
      exact iff_of_false nofun fun ⟨⟨isDigit, _⟩, _⟩ => digit isDigit

theorem readNumber_eq {cs : List Char} (h : unsigned cs ≠ []) :
    readNumber cs = readDigits 0 (unsigned cs) := by
  unfold readNumber
  split
  · exact absurd rfl h
  · rfl
  · next signed => rw [unsigned.eq_2 cs signed]

theorem readNumber_eq_ok_iff {raw : String} {n : Nat} :
    readNumber raw.toList = .ok n ↔ Spells raw n ∧ n < UInt64.size := by
  rw [spells_iff]
  by_cases empty : unsigned raw.toList = []
  · have nothing : raw.toList = [] := by
      rcases eq_unsigned raw.toList with same | plus
      · rw [same, empty]
      · rw [empty] at plus
        rw [plus] at empty
        cases empty
    rw [nothing]
    exact iff_of_false nofun fun ⟨⟨nonempty, _⟩, _⟩ => nonempty rfl
  · rw [readNumber_eq empty, readDigits_eq_ok_iff (by decide)]
    simp only [ne_eq, empty, not_false_eq_true, true_and, and_assoc]

/-! ## Time limits -/

theorem parseTimeout_eq_ok_iff {raw : String} {n : Nat} :
    parseTimeout raw = .ok n ↔ readNumber raw.toList = .ok n ∧ n ≤ maxTimeout := by
  unfold parseTimeout
  cases readNumber raw.toList with
  | error reason => simp
  | ok seconds =>
    by_cases accepted : seconds ≤ maxTimeout
    · simp only [accepted, if_true, Except.ok.injEq]
      exact ⟨fun same => ⟨same, same ▸ accepted⟩, And.left⟩
    · simp only [accepted, if_false, Except.ok.injEq]
      exact iff_of_false nofun fun ⟨same, small⟩ => accepted (same ▸ small)

theorem parseTimeout_eq_outOfRange_iff {raw : String} {n : Nat} :
    parseTimeout raw = .error (.outOfRange n) ↔
      readNumber raw.toList = .ok n ∧ maxTimeout < n := by
  unfold parseTimeout
  cases readNumber raw.toList with
  | error reason => simp
  | ok seconds =>
    by_cases accepted : seconds ≤ maxTimeout
    · simp only [accepted, if_true, Except.ok.injEq]
      exact iff_of_false nofun fun ⟨same, great⟩ => by omega
    · simp only [accepted, if_false, Except.ok.injEq, Except.error.injEq, Problem.outOfRange.injEq]
      exact ⟨fun same => ⟨same, by omega⟩, And.left⟩

theorem parseTimeout_eq_notANumber_iff {raw : String} :
    (∃ reason, parseTimeout raw = .error (.notANumber raw reason)) ↔
      ¬ ∃ n, readNumber raw.toList = .ok n := by
  unfold parseTimeout
  cases readNumber raw.toList with
  | error reason => simp
  | ok seconds =>
    refine iff_of_false ?_ (not_not_intro ⟨seconds, rfl⟩)
    rintro ⟨reason, refused⟩
    dsimp only at refused
    split at refused <;> cases refused

/-- How a text is read as a time limit.

    It is accepted exactly if it spells a number of 32 bits, and refused with that number exactly if
    it spells one of more than 32 and at most 64 bits. In all other cases it is refused as it was
    written, also if it spells a number of any number of bits above 64. -/
theorem parseTimeout_cases (raw : String) :
    (∀ n, parseTimeout raw = .ok n ↔ Spells raw n ∧ n ≤ 4294967295) ∧
    (∀ n, parseTimeout raw = .error (.outOfRange n) ↔
      Spells raw n ∧ 4294967296 ≤ n ∧ n ≤ 18446744073709551615) ∧
    ((∃ reason, parseTimeout raw = .error (.notANumber raw reason)) ↔
      ¬ ∃ n, Spells raw n ∧ n ≤ 18446744073709551615) := by
  have longest : maxTimeout = 4294967295 := by decide
  have size : UInt64.size = 18446744073709551616 := rfl
  refine ⟨fun n => ?_, fun n => ?_, ?_⟩
  · rw [parseTimeout_eq_ok_iff, readNumber_eq_ok_iff, longest, and_assoc]
    refine and_congr_right fun _ => ?_
    omega
  · rw [parseTimeout_eq_outOfRange_iff, readNumber_eq_ok_iff, longest, and_assoc]
    refine and_congr_right fun _ => ?_
    omega
  · rw [parseTimeout_eq_notANumber_iff]
    simp only [readNumber_eq_ok_iff, size, Nat.lt_add_one_iff]

end FunctionHost.Settings
