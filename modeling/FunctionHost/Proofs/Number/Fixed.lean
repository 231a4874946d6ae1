-- SUMMARY: The decimal text of a binary64 number shows the number, rounded to as many places as it has.
import FunctionHost.Proofs.Number.Decimal
import FunctionHost.Proofs.Number.Rounding
import Mathlib.Data.Rat.Floor
import Mathlib.Tactic.FieldSimp
import Mathlib.Tactic.Linarith
import Mathlib.Tactic.Positivity

/-! # Numbers as decimal text

A decimal text shows a rational number: its digits, read as one whole number, divided by a power of
ten with as many zeros as there are digits behind the point. The text of a finite binary64 number
shows the nearest of all numbers with so many places, and keeps the order between numbers. -/

namespace FunctionHost.Number

/-- A text shows a number: decimal digits, with a given number of them behind a point. -/
def Shows (places : Nat) (text : String) (q : ℚ) : Prop :=
  ∃ whole fraction : List Char, whole ≠ [] ∧ fraction.length = places ∧
    (∀ c ∈ whole ++ fraction, c.isDigit = true) ∧
    text.toList = whole ++ (if places = 0 then [] else '.' :: fraction) ∧
    q = (Nat.ofDigitChars 10 (whole ++ fraction) 0 : ℕ) / 10 ^ places

/-! ## Digits -/

theorem toList_natural (n : Nat) : (toString n).toList = Nat.toDigits 10 n := by
  rw [Nat.toString_eq_repr, Nat.toList_repr]

/-- The digits of a number, with zeros before them up to a given length. -/
def padded (n places : Nat) : List Char :=
  List.replicate (places - (toString n).length) '0' ++ (toString n).toList

theorem ofDigitChars_padded (n places : Nat) : Nat.ofDigitChars 10 (padded n places) 0 = n := by
  rw [padded, Nat.ofDigitChars_append, Nat.ofDigitChars_replicate_zero, Nat.mul_zero,
    toList_natural, Nat.ofDigitChars_ten_toDigits]

theorem length_padded {n places : Nat} (h : n < 10 ^ places) (pos : 0 < places) :
    (padded n places).length = places := by
  have fits : (toString n).length ≤ places := by
    rw [← String.length_toList, toList_natural]
    exact (Nat.length_toDigits_le_iff (by decide) pos).2 h
  rw [padded, List.length_append, List.length_replicate, String.length_toList]
  omega

theorem isDigit_of_mem_padded {n places : Nat} {c : Char} (h : c ∈ padded n places) :
    c.isDigit = true := by
  rcases List.mem_append.1 h with zero | digit
  · rw [List.eq_of_mem_replicate zero]
    rfl
  · exact isDigit_of_mem_natural digit

theorem toList_placed {scaled places : Nat} (pos : 0 < places) :
    (placed scaled places).toList = (toString (scaled / 10 ^ places)).toList ++
      '.' :: padded (scaled % 10 ^ places) places := by
  simp [placed, padded, Nat.ne_of_gt pos]

/-- A number of places, and what is written with that many, are the same number. -/
theorem shows_placed (scaled places : Nat) :
    Shows places (placed scaled places) (scaled / 10 ^ places) := by
  have nonempty (n : Nat) : (toString n).toList ≠ [] := by
    rw [toList_natural]
    exact Nat.toDigits_ne_nil
  rcases Nat.eq_zero_or_pos places with rfl | pos
  · refine ⟨(toString scaled).toList, [], nonempty scaled, rfl, ?_, by simp [placed], ?_⟩
    · simpa using fun c => isDigit_of_mem_natural (n := scaled) (c := c)
    · rw [List.append_nil, toList_natural, Nat.ofDigitChars_ten_toDigits]
  · have fraction : scaled % 10 ^ places < 10 ^ places := Nat.mod_lt _ (Nat.pow_pos (by decide))
    refine ⟨(toString (scaled / 10 ^ places)).toList, padded (scaled % 10 ^ places) places,
      nonempty _, length_padded fraction pos, ?_, ?_, ?_⟩
    · intro c hc
      rcases List.mem_append.1 hc with whole | behind
      · exact isDigit_of_mem_natural whole
      · exact isDigit_of_mem_padded behind
    · rw [toList_placed pos, if_neg (Nat.ne_of_gt pos)]
    · rw [Nat.ofDigitChars_append, Nat.ofDigitChars_eq_ofDigitChars_zero, ofDigitChars_padded,
        length_padded fraction pos, toList_natural, Nat.ofDigitChars_ten_toDigits, Nat.div_add_mod]

/-! ## Binary64 numbers -/

namespace Binary64

/-- The rational number that a finite binary64 number is. -/
def rational? : Binary64 → Option ℚ
  | .finite negative units => some ((if negative then -1 else 1) * (units / one))
  | _ => none

/-- Both numbers are finite, and the first is not greater than the second. -/
def AtMost (x y : Binary64) : Prop :=
  ∃ p q : ℚ, x.rational? = some p ∧ y.rational? = some q ∧ p ≤ q

theorem one_pos : 0 < one := by
  have power (n : Nat) : 0 < Nat.pow 2 n := Nat.two_pow_pos n
  unfold one
  apply power

theorem rational?_finite (units : Nat) :
    (finite false units).rational? = some (units / one : ℚ) := by
  unfold rational?
  simp only [Bool.false_eq_true, if_false, one_mul]

theorem atMost_of_le {units more : Nat} (h : units ≤ more) :
    (finite false units).AtMost (finite false more) := by
  refine ⟨_, _, rational?_finite units, rational?_finite more, ?_⟩
  exact div_le_div_of_nonneg_right (by exact_mod_cast h) (Nat.cast_nonneg one)

/-- The nearest number with a given number of places, as a multiple of the last one. -/
def scaled (places units : Nat) : Nat :=
  roundHalfEven (units * 10 ^ places) one

theorem shows_fixed (places units : Nat) :
    Shows places ((finite false units).fixed places) (scaled places units / 10 ^ places) := by
  have text : (finite false units).fixed places = placed (scaled places units) places := by
    simp [Binary64.fixed, scaled]
  rw [text]
  exact shows_placed _ _

theorem scaled_near (places units : Nat) :
    |(scaled places units / 10 ^ places : ℚ) - units / one| ≤ 1 / (2 * 10 ^ places) := by
  obtain ⟨below, above⟩ := roundHalfEven_near (units * 10 ^ places) one_pos
  have unit : (0 : ℚ) < one := by exact_mod_cast one_pos
  have below : 2 * (units * 10 ^ places : ℚ) ≤ 2 * (scaled places units * one) + one := by
    exact_mod_cast below
  have above : 2 * (scaled places units * one : ℚ) ≤ 2 * (units * 10 ^ places) + one := by
    exact_mod_cast above
  have ten : (0 : ℚ) < 10 ^ places := by positivity
  generalize (10 : ℚ) ^ places = p at *
  rw [abs_sub_le_iff]
  constructor
  · rw [sub_le_iff_le_add]
    field_simp
    linarith
  · rw [sub_le_iff_le_add]
    field_simp
    linarith

theorem scaled_le {places units n : Nat} (h : units ≤ n * one) :
    scaled places units ≤ n * 10 ^ places := by
  apply roundHalfEven_le one_pos
  calc
    units * 10 ^ places ≤ n * one * 10 ^ places := Nat.mul_le_mul_right _ h
    _ = n * 10 ^ places * one := Nat.mul_right_comm n one _

theorem le_scaled {places units n : Nat} (h : n * one ≤ units) :
    n * 10 ^ places ≤ scaled places units := by
  apply le_roundHalfEven one_pos
  calc
    n * 10 ^ places * one = n * one * 10 ^ places := Nat.mul_right_comm n _ one
    _ ≤ units * 10 ^ places := Nat.mul_le_mul_right _ h

/-- The smallest whole number that is not below a magnitude. -/
def ceiling (units : Nat) : Nat :=
  ceilDiv units one

theorem ceiling_le_iff {units n : Nat} : ceiling units ≤ n ↔ units ≤ n * one :=
  ceilDiv_le_iff one_pos

theorem ceiling_eq (units : Nat) : ceiling units = ⌈(units / one : ℚ)⌉₊ := by
  have unit : (0 : ℚ) < one := by exact_mod_cast one_pos
  apply eq_of_forall_ge_iff
  intro n
  rw [ceiling_le_iff, Nat.ceil_le, div_le_iff₀ unit]
  exact_mod_cast Iff.rfl

theorem shows_ceiling (units : Nat) :
    Shows 0 ((finite false units).ceil.fixed 0) (ceiling units) := by
  have whole : scaled 0 (ceiling units * one) = ceiling units := by
    rw [scaled, Nat.pow_zero, Nat.mul_one, roundHalfEven_mul _ one_pos]
  have shown := shows_fixed 0 (ceiling units * one)
  rwa [whole, pow_zero, div_one] at shown

/-- What is shown of a number is at most its ceiling, and less than one below it. -/
theorem scaled_ceiling (places units : Nat) :
    scaled places units ≤ ceiling units * 10 ^ places ∧
      ceiling units * 10 ^ places ≤ scaled places units + 10 ^ places := by
  refine ⟨scaled_le (ceiling_le_iff.1 (Nat.le_refl _)), ?_⟩
  cases hceiling : ceiling units with
  | zero => simp
  | succ n =>
    have above : ¬ units ≤ n * one := by
      rw [← ceiling_le_iff, hceiling]
      exact Nat.not_succ_le_self n
    rw [Nat.add_one_mul]
    exact Nat.add_le_add_right (le_scaled (Nat.le_of_not_le above)) _

end Binary64

end FunctionHost.Number
