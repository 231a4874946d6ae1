-- SUMMARY: The characters that occur in the text of a number.
import FunctionHost.Number.Fixed

/-! # Numbers as text

The text of a whole number consists of digits and perhaps a sign. That of a binary64 number may also
have a point, or be one of the words for a number that is not finite. -/

namespace FunctionHost.Number

/-- The characters that occur in the text of a number beside digits. -/
def marks : List Char :=
  "-.NaNinf".toList

theorem isDigit_of_mem_natural {n : Nat} {c : Char} (h : c ∈ (toString n).toList) :
    c.isDigit = true := by
  rw [Nat.toString_eq_repr, Nat.repr_eq_ofList_toDigits, String.toList_ofList] at h
  exact Nat.isDigit_of_mem_toDigits (Nat.succ_pos 9) (Nat.le_refl 10) h

theorem mem_integer {n : Int} {c : Char} (h : c ∈ (toString n).toList) :
    c.isDigit = true ∨ c ∈ marks := by
  cases n with
  | ofNat n => exact .inl (isDigit_of_mem_natural h)
  | negSucc n =>
    have hsign : c = '-' ∨ c ∈ (toString (n + 1)).toList := by
      simpa [toString, Int.repr] using h
    rcases hsign with rfl | hdigit
    · exact .inr (by decide)
    · exact .inl (isDigit_of_mem_natural hdigit)

theorem mem_placed {scaled places : Nat} {c : Char} (h : c ∈ (placed scaled places).toList) :
    c.isDigit = true ∨ c ∈ marks := by
  rw [placed] at h
  split at h
  · exact .inl (isDigit_of_mem_natural h)
  · simp only [String.toList_append, String.toList_ofList, List.mem_append] at h
    rcases h with ((hwhole | hpoint) | hpadding) | hfraction
    · exact .inl (isDigit_of_mem_natural hwhole)
    · obtain rfl : c = '.' := by simpa using hpoint
      exact .inr (by decide)
    · obtain rfl : c = '0' := List.eq_of_mem_replicate hpadding
      exact .inl (by decide)
    · exact .inl (isDigit_of_mem_natural hfraction)

theorem mem_fixed {x : Binary64} {places : Nat} {c : Char} (h : c ∈ (x.fixed places).toList) :
    c.isDigit = true ∨ c ∈ marks := by
  have word (text : String) (h : text.toList.all marks.contains = true) :
      ∀ c ∈ text.toList, c ∈ marks := by
    simpa using h
  have sign (negative : Bool) (h : c ∈ (if negative then "-" else "").toList) : c ∈ marks := by
    cases negative with
    | false => exact word "" (by decide) c h
    | true => exact word "-" (by decide) c h
  cases x with
  | nan => exact .inr (word "NaN" (by decide) c h)
  | infinite negative =>
    simp only [Binary64.fixed, String.toList_append, List.mem_append] at h
    rcases h with hsign | hword
    · exact .inr (sign negative hsign)
    · exact .inr (word "inf" (by decide) c hword)
  | finite negative units =>
    simp only [Binary64.fixed, String.toList_append, List.mem_append] at h
    rcases h with hsign | hdigits
    · exact .inr (sign negative hsign)
    · exact mem_placed hdigits

end FunctionHost.Number
