-- SUMMARY: What a dictionary holds after entries were put in or taken out.
import FunctionHost.Dictionary
import Mathlib.Data.List.Sort

/-! # Looking up in dictionaries

A dictionary is seen through `get?`. Putting in and taking out change the value of one name, and
the entries are exactly the names with their values. -/

namespace FunctionHost.Dictionary

variable {α : Type}

/-! ## Entries -/

theorem find?_alterEntries_same {name : String} {f : Option α → α} {entries : List (String × α)}
    (h : entries.Pairwise (fun a b => a.1 < b.1)) :
    find? name (alterEntries name f entries) = some (f (find? name entries)) := by
  induction entries with
  | nil => simp [alterEntries, find?]
  | cons head rest ih =>
    obtain ⟨key, value⟩ := head
    obtain ⟨hhead, hrest⟩ := List.pairwise_cons.1 h
    simp only [alterEntries]
    split
    · next hlt =>
      -- The name stands before all others, so it is none of them.
      have hnone : find? name ((key, value) :: rest) = none := by
        simp only [find?, Option.map_eq_none_iff, List.find?_eq_none, List.mem_cons,
          forall_eq_or_imp, beq_iff_eq]
        refine ⟨fun heq => ?_, fun entry hentry heq => ?_⟩
        · exact String.lt_irrefl _ (heq ▸ hlt)
        · have hlt' := String.lt_trans hlt (hhead entry hentry)
          exact String.lt_irrefl _ (heq ▸ hlt')
      rw [hnone]
      simp [find?]
    · split
      · next heq => subst heq; simp [find?]
      · next hne =>
        have hkey : (key == name) = false := by simpa using fun heq => hne (Eq.symm heq)
        simpa [find?, List.find?_cons, hkey] using ih hrest

theorem find?_alterEntries_other {name other : String} {f : Option α → α}
    {entries : List (String × α)} (h : other ≠ name) :
    find? other (alterEntries name f entries) = find? other entries := by
  have hname : (name == other) = false := by simpa using Ne.symm h
  induction entries with
  | nil => simp [alterEntries, find?, hname]
  | cons head rest ih =>
    obtain ⟨key, value⟩ := head
    simp only [alterEntries]
    split
    · simp [find?, List.find?_cons, hname]
    · split
      · next heq => subst heq; simp [find?, hname]
      · cases hkey : key == other with
        | true => simp [find?, hkey]
        | false => simpa [find?, List.find?_cons, hkey] using ih

theorem mem_iff_find? {name : String} {value : α} {entries : List (String × α)}
    (h : entries.Pairwise (fun a b => a.1 < b.1)) :
    (name, value) ∈ entries ↔ find? name entries = some value := by
  induction entries with
  | nil => simp [find?]
  | cons head rest ih =>
    obtain ⟨key, first⟩ := head
    obtain ⟨hhead, hrest⟩ := List.pairwise_cons.1 h
    by_cases hkey : key = name
    · subst hkey
      have hnot : (key, value) ∉ rest := fun hmem =>
        String.lt_irrefl _ (hhead (key, value) hmem)
      simp [find?, hnot, eq_comm]
    · have hne : (key == name) = false := by simpa using hkey
      have hpair : (name, value) ≠ (key, first) := fun heq => hkey (Prod.mk.inj heq).1.symm
      simpa [hpair, find?, hne] using ih hrest

@[simp] theorem find?_nil (name : String) : find? name ([] : List (String × α)) = none := rfl

theorem find?_cons (name : String) (entry : String × α) (entries : List (String × α)) :
    find? name (entry :: entries) =
      if entry.1 = name then some entry.2 else find? name entries := by
  simp only [find?, List.find?_cons]
  split <;> simp_all

theorem find?_append (name : String) (first second : List (String × α)) :
    find? name (first ++ second) = (find? name first).or (find? name second) := by
  simp only [find?, List.find?_append]
  cases first.find? fun entry => entry.1 == name <;> rfl

theorem find?_eq_none_iff {name : String} {entries : List (String × α)} :
    find? name entries = none ↔ ∀ entry ∈ entries, entry.1 ≠ name := by
  simp [find?]

/-- Where each name has a value of its own, only whether it occurs matters. -/
theorem find?_map_mk (f : String → α) (names : List String) (name : String) :
    find? name (names.map fun other => (other, f other)) =
      if name ∈ names then some (f name) else none := by
  induction names with
  | nil => rfl
  | cons other rest ih =>
    rw [List.map_cons, find?_cons, ih]
    by_cases heq : other = name
    · simp [heq]
    · simp [heq, Ne.symm heq]

/-- Where no name occurs twice, it does not matter from which end one looks for it. -/
theorem find?_reverse {name : String} {entries : List (String × α)}
    (h : entries.Pairwise (fun a b => a.1 < b.1)) :
    find? name entries.reverse = find? name entries := by
  induction entries with
  | nil => rfl
  | cons entry rest ih =>
    obtain ⟨hhead, hrest⟩ := List.pairwise_cons.1 h
    rw [List.reverse_cons, find?_append, ih hrest, find?_cons, find?_cons]
    split
    · next hname =>
      have hnone : find? name rest = none :=
        find?_eq_none_iff.2 fun other hother heq =>
          String.lt_irrefl _ (hname ▸ heq ▸ hhead other hother)
      rw [hnone, Option.none_or]
    · exact Option.or_none

/-! ## Values by name -/

@[simp] theorem get?_empty (name : String) : (empty : Dictionary α).get? name = none := rfl

theorem get?_alter (d : Dictionary α) (name other : String) (f : Option α → α) :
    (d.alter name f).get? other = if other = name then some (f (d.get? name)) else d.get? other := by
  split
  · next heq => subst heq; exact find?_alterEntries_same d.ascending
  · next hne => exact find?_alterEntries_other hne

theorem get?_map {β : Type} (f : α → β) (d : Dictionary α) (name : String) :
    (d.map f).get? name = (d.get? name).map f := by
  unfold get? find? map
  rw [List.find?_map, Option.map_map, Option.map_map]
  rfl

theorem get?_insert (d : Dictionary α) (name other : String) (value : α) :
    (d.insert name value).get? other = if other = name then some value else d.get? other :=
  get?_alter d name other fun _ => value

@[simp] theorem get?_insert_same (d : Dictionary α) (name : String) (value : α) :
    (d.insert name value).get? name = some value := by
  rw [get?_insert, if_pos rfl]

theorem get?_insert_other (d : Dictionary α) {name other : String} (value : α)
    (h : other ≠ name) : (d.insert name value).get? other = d.get? other := by
  rw [get?_insert, if_neg h]

theorem get?_erase (d : Dictionary α) (name other : String) :
    (d.erase name).get? other = if other = name then none else d.get? other := by
  simp only [get?, find?, erase, List.find?_filter]
  split
  · next heq => subst heq; simp
  · next hne =>
    congr 2
    funext entry
    by_cases heq : entry.1 = other
    · subst heq; simp [hne]
    · simp [heq]

@[simp] theorem get?_erase_same (d : Dictionary α) (name : String) :
    (d.erase name).get? name = none := by
  rw [get?_erase, if_pos rfl]

theorem get?_erase_other (d : Dictionary α) {name other : String} (h : other ≠ name) :
    (d.erase name).get? other = d.get? other := by
  rw [get?_erase, if_neg h]

/-- Whatever is left after an entry was taken out was there before. -/
theorem get?_of_get?_erase {d : Dictionary α} {name other : String} {value : α}
    (h : (d.erase name).get? other = some value) : other ≠ name ∧ d.get? other = some value := by
  rw [get?_erase] at h
  split at h
  · cases h
  · next hne => exact ⟨hne, h⟩

/-- Of values that are set one after the other, the last one for a name wins. -/
theorem get?_insertAll (d : Dictionary α) (values : List (String × α)) (name : String) :
    (d.insertAll values).get? name = (find? name values.reverse).or (d.get? name) := by
  induction values generalizing d with
  | nil => rfl
  | cons entry rest ih =>
    have hfirst : d.insertAll (entry :: rest) = (d.insert entry.1 entry.2).insertAll rest := rfl
    rw [hfirst, ih, get?_insert, List.reverse_cons, find?_append, find?_cons, Option.or_assoc]
    by_cases hname : name = entry.1
    · simp [hname]
    · simp [hname, Ne.symm hname, find?]

/-- The entries are the names with their values. -/
theorem mem_entries_iff {d : Dictionary α} {name : String} {value : α} :
    (name, value) ∈ d.entries ↔ d.get? name = some value :=
  mem_iff_find? d.ascending

theorem eq_empty_of_get? {d : Dictionary α} (h : ∀ name value, d.get? name ≠ some value) :
    d = empty := by
  obtain ⟨entries, ascending⟩ := d
  cases entries with
  | nil => rfl
  | cons entry rest =>
    obtain ⟨name, value⟩ := entry
    exact absurd (mem_entries_iff.1 List.mem_cons_self) (h name value)

/-- A dictionary that knows only one name has at most one entry. -/
theorem size_le_one {d : Dictionary α} (name : String)
    (h : ∀ other value, d.get? other = some value → other = name) : d.size ≤ 1 := by
  obtain ⟨entries, ascending⟩ := d
  match entries with
  | [] => exact Nat.zero_le 1
  | [_] => exact Nat.le_refl 1
  | (first, value) :: (second, value') :: rest =>
    have hlt : first < second := (List.pairwise_cons.1 ascending).1 _ List.mem_cons_self
    have hfirst : first = name := h first value (mem_entries_iff.1 List.mem_cons_self)
    have hsecond : second = name :=
      h second value' (mem_entries_iff.1 (List.mem_cons_of_mem _ List.mem_cons_self))
    rw [hfirst, hsecond] at hlt
    exact absurd hlt (String.lt_irrefl name)

/-! ## Equal dictionaries -/

/-- Two dictionaries with the same values for the same names are equal. -/
theorem ext_get? {d d' : Dictionary α} (h : ∀ name, d.get? name = d'.get? name) : d = d' := by
  have irrefl : Std.Irrefl (fun a b : String × α => a.1 < b.1) := ⟨fun a => String.lt_irrefl a.1⟩
  have antisymm : Std.Antisymm (fun a b : String × α => a.1 < b.1) :=
    ⟨fun a b hlt hgt => absurd (String.lt_trans hlt hgt) (String.lt_irrefl a.1)⟩
  have hentries : d.entries = d'.entries := by
    refine d.ascending.eq_of_mem_iff d'.ascending fun ⟨name, value⟩ => ?_
    rw [mem_entries_iff, mem_entries_iff, h]
  obtain ⟨entries, ascending⟩ := d
  obtain ⟨entries', ascending'⟩ := d'
  congr

theorem erase_insert_same {d : Dictionary α} {name : String} (value : α)
    (h : d.get? name = none) : (d.insert name value).erase name = d := by
  refine ext_get? fun other => ?_
  rw [get?_erase]
  split
  · next heq => rw [heq, h]
  · next hne => exact get?_insert_other d value hne

theorem erase_insert_other (d : Dictionary α) {name other : String} (value : α)
    (h : other ≠ name) : (d.insert name value).erase other = (d.erase other).insert name value := by
  refine ext_get? fun key => ?_
  simp only [get?_erase, get?_insert]
  split
  · next heq => rw [if_neg (heq ▸ h)]
  · rfl

theorem erase_comm (d : Dictionary α) (name other : String) :
    (d.erase name).erase other = (d.erase other).erase name := by
  refine ext_get? fun key => ?_
  simp only [get?_erase]
  split <;> split <;> rfl

end FunctionHost.Dictionary
