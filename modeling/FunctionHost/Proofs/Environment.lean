-- SUMMARY: The value of a variable after others were set: the last one that was given wins.
import FunctionHost.Environment
import FunctionHost.Proofs.Dictionary
import FunctionHost.Proofs.Text.Utf8
import Mathlib.Data.List.Induction
import Mathlib.Data.List.TakeWhile

/-! # Looking up variables

A variable that is laid over an environment hides the one that was there, and of several variables
of one name the last one is seen. The variables of the platform are seen only where nothing else
is set. Where variables are given as entries, the last entry of a variable sets it, to what stands
behind the first `=` of this entry. -/

namespace FunctionHost.Environment

open Dictionary (find?)

variable {env : Environment} {name value : String} {pairs : List (String × String)}

theorem get?_overlaid (env : Environment) (pairs : List (String × String)) (name : String) :
    (env.overlaid pairs).get? name = (find? name pairs.reverse).or (env.get? name) :=
  Dictionary.get?_insertAll env.values pairs name

theorem get?_ofPairs (pairs : List (String × String)) (name : String) :
    (ofPairs pairs).get? name =
      (find? name pairs.reverse).or (find? name platform.reverse) := by
  dsimp only [get?, ofPairs, Dictionary.ofList]
  rw [Dictionary.get?_insertAll, List.reverse_append, Dictionary.find?_append,
    Dictionary.get?_empty, Option.or_none]

/-- The environment of all variables of another one differs from it only in what the platform
    defines where the other one does not. -/
theorem get?_ofPairs_toList (env : Environment) (name : String) :
    (ofPairs env.toList).get? name = (env.get? name).or (find? name platform.reverse) := by
  rw [get?_ofPairs, toList, Dictionary.find?_reverse env.values.ascending]
  rfl

/-- A process that gets its variables as bytes sees the variables themselves. -/
theorem ofBytes_bytes (pairs : List (String × String)) :
    ofBytes (pairs.map fun pair => (Text.Utf8.bytes pair.1, Text.Utf8.bytes pair.2)) =
      ofPairs pairs := by
  simp [ofBytes, Function.comp_def, Text.Utf8.lossy_bytes]

theorem nonEmpty?_eq_some_iff :
    env.nonEmpty? name = some value ↔ env.get? name = some value ∧ value ≠ "" := by
  simp [nonEmpty?]

/-- A text that stands in for the empty one is not empty where its default is not. -/
theorem getD_nonEmpty?_ne {default : String} (ne : default ≠ "") :
    (env.nonEmpty? name).getD default ≠ "" := by
  cases given : env.nonEmpty? name with
  | none => exact ne
  | some value => exact (nonEmpty?_eq_some_iff.1 given).2

/-- A variable that has a value keeps it when this value is laid over it. -/
theorem nonEmpty?_or_get? (env : Environment) (name : String) :
    (env.nonEmpty? name).or (env.get? name) = env.get? name := by
  unfold nonEmpty?
  cases env.get? name with
  | none => rfl
  | some value =>
    rw [Option.filter_some]
    split <;> rfl

/-- A default makes no difference where it is taken for what has no value. -/
theorem getD_filter_or (value : Option String) (default : String) (p : String → Bool) :
    ((value.or (some default)).filter p).getD default = (value.filter p).getD default := by
  cases value with
  | none =>
    rw [Option.none_or, Option.filter_some]
    split <;> rfl
  | some value => rw [Option.some_or]

/-! ## Entries -/

/-- An entry sets a variable to what stands behind its first `=`, and an entry without one sets the
    variable that it names to the empty text. -/
inductive Sets : String → String → String → Prop where
  | valued (name value : String) (plain : '=' ∉ name.toList) :
    Sets (name ++ "=" ++ value) name value
  | bare (name : String) (plain : '=' ∉ name.toList) : Sets name name ""

/-- The last entry of some variable sets it to a value. -/
def LastSets (entries : List String) (name value : String) : Prop :=
  ∃ before entry after, entries = before ++ entry :: after ∧ Sets entry name value ∧
    ∀ later ∈ after, ∀ other, ¬ Sets later name other

theorem splitEntry_of_sets {entry name value : String} (h : Sets entry name value) :
    splitEntry entry = (name, value) := by
  have named {name : String} (plain : '=' ∉ name.toList) :
      ∀ c ∈ name.toList, (!decide (c = '=')) = true := by
    rintro c hc
    simpa using fun heq : c = '=' => plain (heq ▸ hc)
  cases h with
  | valued name value plain =>
    simp [splitEntry, List.takeWhile_append_of_pos (named plain),
      List.dropWhile_append_of_pos (named plain)]
  | bare _ plain =>
    simp [splitEntry, List.takeWhile_eq_self_iff.2 (named plain),
      List.dropWhile_eq_nil_iff.2 (named plain)]

theorem exists_sets (entry : String) : ∃ name value, Sets entry name value := by
  by_cases marked : '=' ∈ entry.toList
  · obtain ⟨name, value, hentry, plain⟩ := List.eq_append_cons_of_mem marked
    have hjoin : entry = String.ofList name ++ "=" ++ String.ofList value := by
      refine String.toList_injective ?_
      simpa using hentry
    rw [hjoin]
    exact ⟨_, _, .valued _ _ (by simpa using plain)⟩
  · exact ⟨entry, "", .bare entry marked⟩

/-- Every entry sets one variable to one value, and it is split into these. -/
theorem sets_iff {entry name value : String} :
    Sets entry name value ↔ splitEntry entry = (name, value) := by
  refine ⟨splitEntry_of_sets, fun h => ?_⟩
  obtain ⟨name', value', sets⟩ := exists_sets entry
  cases h.symm.trans (splitEntry_of_sets sets)
  exact sets

theorem lastSets_concat {entries : List String} {entry name value : String} :
    LastSets (entries ++ [entry]) name value ↔
      if (splitEntry entry).1 = name then value = (splitEntry entry).2
      else LastSets entries name value := by
  constructor
  · rintro ⟨before, chosen, after, hsplit, sets, last⟩
    rcases List.eq_nil_or_concat after with rfl | ⟨later, final, rfl⟩
    · obtain ⟨-, heq⟩ := List.append_inj' hsplit rfl
      cases heq
      simp [sets_iff.1 sets]
    · have hsplit : entries ++ [entry] = (before ++ chosen :: later) ++ [final] := by
        simpa using hsplit
      obtain ⟨hentries, heq⟩ := List.append_inj' hsplit rfl
      cases heq
      have other : (splitEntry entry).1 ≠ name := fun hname =>
        last entry (by simp) (splitEntry entry).2 (sets_iff.2 (hname ▸ rfl))
      rw [if_neg other]
      exact ⟨before, chosen, later, hentries, sets, fun e he => last e (by simp [he])⟩
  · split
    · next hname =>
      rintro rfl
      exact ⟨entries, entry, [], rfl, sets_iff.2 (hname ▸ rfl), nofun⟩
    · next other =>
      rintro ⟨before, chosen, after, rfl, sets, last⟩
      refine ⟨before, chosen, after ++ [entry], by simp, sets, fun later hlater value hsets => ?_⟩
      rcases List.mem_append.1 hlater with hlater | hlater
      · exact last later hlater value hsets
      · cases List.mem_singleton.1 hlater
        exact other (by rw [sets_iff.1 hsets])

/-- Looking a variable up among the entries from the last one on finds what the last entry of it
    sets. -/
theorem find?_eq_some_iff_lastSets {entries : List String} {name value : String} :
    find? name (entries.map splitEntry).reverse = some value ↔ LastSets entries name value := by
  induction entries using List.reverseRecOn with
  | nil =>
    refine iff_of_false nofun ?_
    rintro ⟨before, entry, after, hsplit, -⟩
    simp at hsplit
  | append_singleton entries entry ih =>
    rw [lastSets_concat, List.map_append, List.reverse_append, List.map_singleton,
      List.reverse_singleton, List.singleton_append, Dictionary.find?_cons]
    split
    · exact ⟨fun h => (Option.some.inj h).symm, fun h => h ▸ rfl⟩
    · exact ih

theorem get?_ofEntries (entries : List String) (name : String) :
    (ofEntries entries).get? name =
      (find? name (entries.map splitEntry).reverse).or (find? name platform.reverse) :=
  get?_ofPairs _ name

end FunctionHost.Environment
