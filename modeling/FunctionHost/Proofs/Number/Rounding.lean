-- SUMMARY: Rounding to the nearest binary64 number keeps the order and leaves such numbers as they are.
import FunctionHost.Number.Binary64
import Mathlib.Algebra.Ring.Nat
import Mathlib.Tactic.SplitIfs

/-! # Rounding keeps the order

A rounded quotient lies between any two whole numbers that the quotient lies between. The numbers
that binary64 has around a magnitude are the multiples of a power of two, and every greater power of
two is one of them. So rounding keeps the order also across the magnitudes at which the spacing
changes, and what is such a number already stays as it is. -/

namespace FunctionHost.Number

variable {num other den k : Nat}

/-! ## Quotients -/

theorem div_le_roundHalfEven (num den : Nat) : num / den ≤ roundHalfEven num den := by
  simp only [roundHalfEven]
  split_ifs <;> omega

theorem roundHalfEven_le_succ (num den : Nat) : roundHalfEven num den ≤ num / den + 1 := by
  simp only [roundHalfEven]
  split_ifs <;> omega

theorem roundHalfEven_mul (k : Nat) (pos : 0 < den) : roundHalfEven (k * den) den = k := by
  simp [roundHalfEven, Nat.mul_div_cancel k pos, pos]

theorem roundHalfEven_mono (h : num ≤ other) (den : Nat) :
    roundHalfEven num den ≤ roundHalfEven other den := by
  rcases Nat.eq_or_lt_of_le (Nat.div_le_div_right (c := den) h) with same | less
  · -- The whole parts are equal, so the greater number has the greater remainder.
    have hnum := Nat.div_add_mod num den
    have hother := Nat.div_add_mod other den
    rw [← same] at hother
    have remainders : num % den ≤ other % den := by omega
    simp only [roundHalfEven, ← same]
    split_ifs <;> omega
  · calc
      roundHalfEven num den ≤ num / den + 1 := roundHalfEven_le_succ num den
      _ ≤ other / den := less
      _ ≤ roundHalfEven other den := div_le_roundHalfEven other den

theorem le_roundHalfEven (pos : 0 < den) (h : k * den ≤ num) : k ≤ roundHalfEven num den := by
  rw [← roundHalfEven_mul k pos]
  exact roundHalfEven_mono h den

theorem roundHalfEven_le (pos : 0 < den) (h : num ≤ k * den) : roundHalfEven num den ≤ k := by
  rw [← roundHalfEven_mul k pos]
  exact roundHalfEven_mono h den

/-- A rounded quotient is at most one half away from the quotient. -/
theorem roundHalfEven_near (num : Nat) (pos : 0 < den) :
    2 * num ≤ 2 * (roundHalfEven num den * den) + den ∧
      2 * (roundHalfEven num den * den) ≤ 2 * num + den := by
  have hnum := Nat.div_add_mod' num den
  have hlt := Nat.mod_lt num pos
  have hnext : (num / den + 1) * den = num / den * den + den := Nat.add_one_mul _ _
  simp only [roundHalfEven]
  split_ifs <;> omega

theorem ceilDiv_le_iff (pos : 0 < den) : ceilDiv num den ≤ k ↔ num ≤ k * den := by
  have hnum := Nat.div_add_mod' num den
  rw [ceilDiv]
  split_ifs with whole
  · rw [← Nat.mul_le_mul_right_iff pos]
    omega
  · rw [Nat.add_one_le_iff, Nat.div_lt_iff_lt_mul pos]
    refine ⟨Nat.le_of_lt, fun h => Nat.lt_of_le_of_ne h ?_⟩
    rintro rfl
    exact whole (Nat.mul_mod_left k den)

/-! ## Binary64 magnitudes -/

namespace Binary64

/-- A magnitude that binary64 has: a multiple of the spacing around it. -/
def Exact (units : Nat) : Prop :=
  spacing units ∣ units

variable {m : Nat}

theorem spacing_pos (units : Nat) : 0 < spacing units :=
  Nat.two_pow_pos _

/-- A number of at most 53 bits, shifted by any number of bits, is one that binary64 has. -/
theorem exact_shifted {a : Nat} (h : a < 2 ^ 53) (shift : Nat) : Exact (a * 2 ^ shift) := by
  by_cases zero : a = 0
  · simp [Exact, zero]
  have nonzero : a * 2 ^ shift ≠ 0 := Nat.mul_ne_zero zero (Nat.ne_of_gt (Nat.two_pow_pos shift))
  have bits : (a * 2 ^ shift).log2 < 53 + shift := by
    rw [Nat.log2_lt nonzero, Nat.pow_add]
    exact Nat.mul_lt_mul_of_pos_right h (Nat.two_pow_pos shift)
  have fits : (a * 2 ^ shift).log2 - 52 ≤ shift := by omega
  exact Nat.dvd_mul_left_of_dvd (Nat.pow_dvd_pow 2 fits) a

theorem nearest_le (pos : 0 < den) (h : num ≤ m * den) (multiple : spacing (num / den) ∣ m) :
    nearest num den ≤ m := by
  obtain ⟨q, hq⟩ := multiple
  have hm : m = q * spacing (num / den) := hq.trans (Nat.mul_comm _ _)
  have bound : num ≤ q * (den * spacing (num / den)) := by
    rwa [Nat.mul_comm den, ← Nat.mul_assoc, ← hm]
  rw [hm]
  exact Nat.mul_le_mul_right _ (roundHalfEven_le (Nat.mul_pos pos (spacing_pos _)) bound)

theorem le_nearest (pos : 0 < den) (h : m * den ≤ num) (multiple : spacing (num / den) ∣ m) :
    m ≤ nearest num den := by
  obtain ⟨q, hq⟩ := multiple
  have hm : m = q * spacing (num / den) := hq.trans (Nat.mul_comm _ _)
  have bound : q * (den * spacing (num / den)) ≤ num := by
    rwa [Nat.mul_comm den, ← Nat.mul_assoc, ← hm]
  rw [hm]
  exact Nat.mul_le_mul_right _ (le_roundHalfEven (Nat.mul_pos pos (spacing_pos _)) bound)

/-- A quotient that binary64 has is not changed by rounding. -/
theorem nearest_of_exact (exact : Exact m) (pos : 0 < den) : nearest (m * den) den = m := by
  have multiple : spacing (m * den / den) ∣ m := by rwa [Nat.mul_div_cancel m pos]
  exact Nat.le_antisymm (nearest_le pos (Nat.le_refl _) multiple)
    (le_nearest pos (Nat.le_refl _) multiple)

theorem log2_mono {a b : Nat} (h : a ≤ b) : a.log2 ≤ b.log2 := by
  by_cases zero : a = 0
  · simp [zero]
  · rw [Nat.le_log2 (by omega)]
    exact Nat.le_trans (Nat.log2_self_le zero) h

/-- Rounding keeps the order. -/
theorem nearest_mono (pos : 0 < den) (h : num ≤ other) : nearest num den ≤ nearest other den := by
  have quotients : num / den ≤ other / den := Nat.div_le_div_right h
  rcases Nat.eq_or_lt_of_le (log2_mono quotients) with same | less
  · simp only [nearest, spacing, same]
    exact Nat.mul_le_mul_right _ (roundHalfEven_mono h _)
  · -- A power of two lies between the quotients, and both spacings divide it.
    have nonzero : other / den ≠ 0 := by
      intro zero
      simp [zero] at less
    have above : num / den < 2 ^ (other / den).log2 :=
      Nat.lt_of_lt_of_le Nat.lt_log2_self (Nat.pow_le_pow_right Nat.two_pos less)
    have below : 2 ^ (other / den).log2 ≤ other / den := Nat.log2_self_le nonzero
    calc
      nearest num den ≤ 2 ^ (other / den).log2 :=
        nearest_le pos (Nat.le_of_lt ((Nat.div_lt_iff_lt_mul pos).1 above))
          (Nat.pow_dvd_pow 2 (by omega))
      _ ≤ nearest other den :=
        le_nearest pos ((Nat.le_div_iff_mul_le pos).1 below) (Nat.pow_dvd_pow 2 (by omega))

theorem nearest_le_of_exact (exact : Exact m) (pos : 0 < den) (h : num ≤ m * den) :
    nearest num den ≤ m := by
  rw [← nearest_of_exact exact pos]
  exact nearest_mono pos h

end Binary64

end FunctionHost.Number
