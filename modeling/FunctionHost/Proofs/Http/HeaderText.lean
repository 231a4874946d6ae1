-- SUMMARY: The texts that may be values of header fields are those without control characters.
import FunctionHost.Http.Headers
import FunctionHost.Proofs.Number.Decimal
import FunctionHost.Proofs.Text.Spelling

/-! # Texts in header fields

A text may be the value of a header field exactly if it holds no control character but the tab.
Characters outside ASCII are no obstacle, since none of their bytes is a control. The values of
header fields that were accepted may be any other bytes, and decoding them lossily never brings in
a character that may not stand in a header field: each character of the text was there in the
bytes, or it is the mark for what is ill-formed. -/

namespace FunctionHost.Http

/-- A character that the value of a header field may hold. -/
def IsShown (c : Char) : Prop :=
  c = '\t' ∨ (0x20 ≤ c.toNat ∧ c.toNat ≠ 0x7F)

instance (c : Char) : Decidable (IsShown c) :=
  inferInstanceAs (Decidable (_ ∨ _))

theorem isValueByte_ofNat {n : Nat} (h : n < 256) :
    isValueByte (UInt8.ofNat n) = true ↔ n = 0x09 ∨ (0x20 ≤ n ∧ n ≠ 0x7F) := by
  have hn : (UInt8.ofNat n).toNat = n := UInt8.toNat_ofNat_of_lt' h
  simp [isValueByte, ← UInt8.toNat_inj, UInt8.le_iff_toNat_le, hn]

/-- The bytes of a character are fit for a header field exactly if the character is. -/
theorem all_isValueByte_utf8EncodeChar (c : Char) :
    (String.utf8EncodeChar c).all isValueByte = true ↔ IsShown c := by
  have htab : c = '\t' ↔ c.val.toNat = 0x09 := by
    rw [Char.ext_iff, ← UInt32.toNat_inj]
    rfl
  have high (n : Nat) (low : 0x80 ≤ n) (byte : n < 256) : isValueByte (UInt8.ofNat n) = true :=
    (isValueByte_ofNat byte).2 (by omega)
  rw [IsShown, htab, Char.toNat, String.utf8EncodeChar]
  generalize c.val.toNat = v
  split
  · next hone => simp [isValueByte_ofNat (show v < 256 by omega)]
  · next hone =>
    -- Every byte of a longer character is at least 0x80.
    refine iff_of_true ?_ (by omega)
    split
    · simp (disch := omega) only [List.all_cons, List.all_nil, high, Bool.and_self]
    · split <;> simp (disch := omega) only [List.all_cons, List.all_nil, high, Bool.and_self]

theorem isHeaderText_iff (text : String) :
    isHeaderText text = true ↔ ∀ c ∈ text.toList, IsShown c := by
  rw [isHeaderText, Text.Utf8.bytes, Text.Utf8.encode, List.all_flatMap, List.all_eq_true]
  exact forall₂_congr fun c _ => all_isValueByte_utf8EncodeChar c

theorem isShown_of_isDigit {c : Char} (h : c.isDigit = true) : IsShown c := by
  obtain ⟨hlow, hhigh⟩ := Char.isDigit_iff_toNat.1 h
  exact .inr ⟨by simp at hlow; omega, by simp at hhigh; omega⟩

/-- The text of a number may be the value of a header field. -/
theorem isHeaderText_toString (n : Int) : isHeaderText (toString n) = true := by
  rw [isHeaderText_iff]
  intro c hc
  rcases Number.mem_integer hc with hdigit | hmark
  · exact isShown_of_isDigit hdigit
  · have shown : Number.marks.all (fun c => decide (IsShown c)) = true := by decide
    exact of_decide_eq_true (List.all_eq_true.1 shown c hmark)

/-! ## Header fields that were accepted -/

/-- Header fields with values that may be sent. -/
def Headers.Legal (headers : Headers) : Prop :=
  ∀ field ∈ headers.fields, field.2.all isValueByte = true

variable {headers : Headers} {name : String} {value : Bytes}

theorem isValue_of_field? {bytes : Bytes} {field : String × Bytes}
    (accepted : Headers.field? bytes value = .ok field) : field.2.all isValueByte = true := by
  unfold Headers.field? at accepted
  split at accepted
  · cases accepted
  · split at accepted
    · next legal =>
      cases accepted
      exact legal
    · cases accepted

/-- What a list is mapped to without an error comes from its elements. -/
theorem exists_of_mem_mapM {α β ε : Type} {f : α → Except ε β} {xs : List α} {ys : List β} {y : β}
    (mapped : xs.mapM f = .ok ys) (mem : y ∈ ys) : ∃ x ∈ xs, f x = .ok y := by
  induction xs generalizing ys with
  | nil =>
    cases mapped
    cases mem
  | cons x rest ih =>
    rw [List.mapM_cons] at mapped
    cases first : f x with
    | error problem => rw [first] at mapped; cases mapped
    | ok y' =>
      cases others : rest.mapM f with
      | error problem => rw [first, others] at mapped; cases mapped
      | ok ys' =>
        rw [first, others] at mapped
        cases mapped
        rcases List.mem_cons.1 mem with rfl | mem
        · exact ⟨x, List.mem_cons_self, first⟩
        · obtain ⟨x', hx', accepted⟩ := ih others mem
          exact ⟨x', List.mem_cons_of_mem _ hx', accepted⟩

/-- Header fields that are accepted may be sent. -/
theorem legal_of_ofPairs? {pairs : List (Bytes × Bytes)}
    (accepted : Headers.ofPairs? pairs = .ok headers) : headers.Legal := by
  unfold Headers.ofPairs? at accepted
  generalize mapped : (pairs.mapM _ : Except HeaderProblem _) = fields? at accepted
  cases fields? with
  | error problem => cases accepted
  | ok fields =>
    cases accepted
    intro field hfield
    obtain ⟨pair, -, accepted⟩ := exists_of_mem_mapM mapped hfield
    exact isValue_of_field? accepted

theorem Headers.Legal.first? (h : headers.Legal) (found : headers.first? name = some value) :
    value.all isValueByte = true := by
  have mem : value ∈ headers.values name := List.mem_of_mem_head? found
  obtain ⟨field, hfield, rfl⟩ := List.mem_map.1 mem
  exact h field (List.mem_filter.1 hfield).1

/-- Lossy decoding keeps a value fit for a header field. -/
theorem isShown_of_lossy (legal : value.all isValueByte = true) :
    ∀ c ∈ (Text.Utf8.lossy value).toList, IsShown c := by
  intro c hc
  rw [Text.Utf8.lossy, String.toList_ofList] at hc
  rcases Text.Utf8.mem_decodeLossy hc with rfl | spelled
  · decide
  · refine (all_isValueByte_utf8EncodeChar c).1 (List.all_eq_true.2 fun b hb => ?_)
    exact List.all_eq_true.1 legal b (spelled hb)

theorem Headers.Legal.isShown_firstText (h : headers.Legal) (name : String) :
    ∀ c ∈ (headers.firstText name).toList, IsShown c := by
  unfold Headers.firstText
  split
  · next value found => exact isShown_of_lossy (h.first? found)
  · simp

end FunctionHost.Http
