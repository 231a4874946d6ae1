-- SUMMARY: Which targets have a path that begins at the root, and which have none.
import FunctionHost.Http.Uri

/-! # Paths of targets

A target has a path that begins with a slash in all but two cases: the asterisk, and a bare
authority, which has no path at all. -/

namespace FunctionHost.Http.Uri

/-- A path begins with a slash. -/
def IsRooted (path : String) : Prop :=
  path.toList.head? = some '/'

instance (path : String) : Decidable (IsRooted path) :=
  inferInstanceAs (Decidable (_ = _))

theorem IsRooted.exists_eq {path : String} (h : IsRooted path) :
    ∃ remainder, path.toList = '/' :: remainder :=
  List.head?_eq_some_iff.1 h

/-- Behind an authority, or where none is, a path begins with a slash or is empty. An empty one is
    the root. -/
theorem isRooted_of_pathAndQuery? {cs : List Char} {path : String} {query : Option String}
    (starts : ∀ c ∈ cs.head?, endsAuthority c = true)
    (h : pathAndQuery? cs = some (path, query)) : IsRooted path := by
  simp only [pathAndQuery?] at h
  split at h
  · cases h
  · cases h
    unfold IsRooted
    rw [String.toList_ofList]
    cases cs with
    | nil => rfl
    | cons c rest =>
      have hc : c = '/' ∨ c = '?' ∨ c = '#' := by
        simpa [endsAuthority, or_assoc] using starts c rfl
      rcases hc with rfl | rfl | rfl <;> simp [List.takeWhile]

theorem starts_of_authority? {cs authority rest : List Char}
    (h : authority? cs = some (authority, rest)) :
    (∀ c ∈ rest.head?, endsAuthority c = true) ∧ cs = authority ++ rest := by
  simp only [authority?] at h
  split at h
  · split at h
    · cases h
      refine ⟨fun c hc => ?_, List.takeWhile_append_dropWhile.symm⟩
      have hstop := List.head?_dropWhile_not (fun c => !endsAuthority c) cs
      rw [hc] at hstop
      simpa using hstop
    · cases h
  · cases h

theorem isRooted_of_absolute? {cs : List Char} {uri : Uri} (h : absolute? cs = some uri) :
    IsRooted uri.path := by
  simp only [absolute?, Option.bind_eq_bind] at h
  obtain ⟨⟨authority, rest⟩, hauthority, h⟩ := Option.bind_eq_some_iff.1 h
  split at h
  · cases h
  · obtain ⟨⟨path, query⟩, hpath, h⟩ := Option.bind_eq_some_iff.1 h
    cases h
    exact isRooted_of_pathAndQuery? (starts_of_authority? hauthority).1 hpath

theorem eq_of_ofAuthority? {cs : List Char} {uri : Uri} (h : ofAuthority? cs = some uri) :
    uri = ⟨some (String.ofList cs), "", none⟩ := by
  simp only [ofAuthority?, Option.bind_eq_bind] at h
  obtain ⟨⟨authority, rest⟩, hauthority, h⟩ := Option.bind_eq_some_iff.1 h
  obtain ⟨-, hsplit⟩ := starts_of_authority? hauthority
  split at h
  · next hrest =>
    have hnothing : rest = [] := List.isEmpty_iff.1 hrest
    cases h
    rw [hsplit, hnothing, List.append_nil]
  · cases h

/-- The path of a target begins with a slash, unless the target is the asterisk or a bare
    authority. -/
theorem path_of_parse? {text : String} {uri : Uri} (h : parse? text = some uri) :
    IsRooted uri.path ∨ (text = "*" ∧ uri = ⟨none, "*", none⟩) ∨ uri = ⟨some text, "", none⟩ := by
  simp only [parse?] at h
  split at h
  · cases h
  split at h
  · cases h
  · next hstar =>
    cases h
    exact .inr (.inl ⟨String.toList_injective hstar, rfl⟩)
  · next rest hslash =>
    obtain ⟨⟨path, query⟩, hpath, rfl⟩ := Option.map_eq_some_iff.1 h
    refine .inl (isRooted_of_pathAndQuery? ?_ hpath)
    intro c hc
    rw [hslash] at hc
    cases hc
    rfl
  · split at h
    · exact .inl (isRooted_of_absolute? h)
    · have huri := eq_of_ofAuthority? h
      rw [String.ofList_toList] at huri
      exact .inr (.inr huri)
    · cases h

/-- The asterisk and a bare authority have no path that begins with a slash. -/
theorem not_isRooted_of_bare : ¬ IsRooted "*" ∧ ¬ IsRooted "" := by
  decide

end FunctionHost.Http.Uri
