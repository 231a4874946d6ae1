-- SUMMARY: Values by name, kept in ascending order of the names.

/-! # Dictionaries

A dictionary holds at most one value for each name, and its entries ascend by name. Names are
compared by their code points, which is also the order of their UTF-8 bytes. Two dictionaries
with the same values for the same names are equal. -/

namespace FunctionHost

/-- Values by name, the names strictly ascending. -/
structure Dictionary (α : Type) where
  entries : List (String × α)
  ascending : entries.Pairwise (fun a b => a.1 < b.1)
  deriving DecidableEq

namespace Dictionary

variable {α β : Type}

/-- The value for a name in a list of entries. -/
def find? (name : String) (entries : List (String × α)) : Option α :=
  (entries.find? fun entry => entry.1 == name).map Prod.snd

/-- Entries with the value for one name changed, or put in where it belongs. -/
def alterEntries (name : String) (f : Option α → α) : List (String × α) → List (String × α)
  | [] => [(name, f none)]
  | (key, value) :: rest =>
    if name < key then (name, f none) :: (key, value) :: rest
    else if name = key then (key, f (some value)) :: rest
    else (key, value) :: alterEntries name f rest

theorem mem_alterEntries {name : String} {f : Option α → α} {entries : List (String × α)}
    {entry : String × α} (h : entry ∈ alterEntries name f entries) :
    entry.1 = name ∨ entry ∈ entries := by
  induction entries with
  | nil => simp only [alterEntries, List.mem_singleton] at h; exact .inl (by rw [h])
  | cons head rest ih =>
    obtain ⟨key, value⟩ := head
    simp only [alterEntries] at h
    split at h
    · rcases List.mem_cons.1 h with rfl | h
      · exact .inl rfl
      · exact .inr h
    · split at h
      · next heq =>
        rcases List.mem_cons.1 h with rfl | h
        · exact .inl heq.symm
        · exact .inr (List.mem_cons_of_mem _ h)
      · rcases List.mem_cons.1 h with rfl | h
        · exact .inr List.mem_cons_self
        · exact (ih h).imp_right (List.mem_cons_of_mem _)

theorem pairwise_alterEntries {name : String} {f : Option α → α} {entries : List (String × α)}
    (h : entries.Pairwise (fun a b => a.1 < b.1)) :
    (alterEntries name f entries).Pairwise (fun a b => a.1 < b.1) := by
  induction entries with
  | nil => simp [alterEntries]
  | cons head rest ih =>
    obtain ⟨key, value⟩ := head
    obtain ⟨hhead, hrest⟩ := List.pairwise_cons.1 h
    simp only [alterEntries]
    split
    · next hlt =>
      refine List.pairwise_cons.2 ⟨fun entry hentry => ?_, h⟩
      rcases List.mem_cons.1 hentry with rfl | hentry
      · exact hlt
      · exact String.lt_trans hlt (hhead entry hentry)
    · split
      · exact List.pairwise_cons.2 ⟨hhead, hrest⟩
      · next hlt hne =>
        refine List.pairwise_cons.2 ⟨fun entry hentry => ?_, ih hrest⟩
        rcases mem_alterEntries hentry with heq | hentry
        · show key < entry.1
          rw [heq]
          exact Decidable.byContradiction fun hge =>
            hne (String.le_antisymm (String.not_lt.1 hge) (String.not_lt.1 hlt))
        · exact hhead entry hentry

/-- The dictionary without entries. -/
def empty : Dictionary α :=
  ⟨[], List.Pairwise.nil⟩

/-- The value for a name. -/
def get? (d : Dictionary α) (name : String) : Option α :=
  find? name d.entries

/-- A dictionary with the value for one name computed from the one it had. -/
def alter (d : Dictionary α) (name : String) (f : Option α → α) : Dictionary α :=
  ⟨alterEntries name f d.entries, pairwise_alterEntries d.ascending⟩

/-- A dictionary with the value for one name set. -/
def insert (d : Dictionary α) (name : String) (value : α) : Dictionary α :=
  d.alter name fun _ => value

/-- A dictionary with a list of values set one after the other, so that later ones win. -/
def insertAll (d : Dictionary α) (values : List (String × α)) : Dictionary α :=
  values.foldl (fun d (name, value) => d.insert name value) d

/-- The dictionary of a list of values, of which later ones win. -/
def ofList (values : List (String × α)) : Dictionary α :=
  empty.insertAll values

/-- A dictionary without the value for a name. -/
def erase (d : Dictionary α) (name : String) : Dictionary α :=
  ⟨d.entries.filter (·.1 ≠ name), d.ascending.filter _⟩

/-- The number of entries. -/
def size (d : Dictionary α) : Nat :=
  d.entries.length

/-- A dictionary with every value replaced by its image. -/
def map (f : α → β) (d : Dictionary α) : Dictionary β :=
  ⟨d.entries.map fun entry => (entry.1, f entry.2),
    List.pairwise_map.2 (d.ascending.imp id)⟩

end Dictionary

end FunctionHost
