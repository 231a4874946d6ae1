-- SUMMARY: Joining header fields keeps every value of a name, in the order of the appends.
import FunctionHost.Http.Headers
import FunctionHost.Proofs.UrlEvent.Joined
import FunctionHost.UrlEvent.Headers
import Mathlib.Logic.Relation

/-! # Header fields joined by name

Header fields are appended one after the other, their names in any letter case. An event shows each
name but the host once, in lower case, with all values that were appended under it. It does not
matter how the appends of different names were interleaved, nor in which order the names are gone
through. -/

namespace FunctionHost

namespace Http

/-! ## Appending -/

/-- The name of a header field in lower case. -/
def lowerName (name : Bytes) : String :=
  String.ofList (name.map fun b => (Char.ofNat b.toNat).toLower)

/-- A name and a value with which a header field can be appended. -/
structure Appendable (name value : Bytes) : Prop where
  named : name ≠ []
  short : name.length ≤ maxNameLength
  token : ∀ b ∈ name, isTokenByte b = true
  legal : ∀ b ∈ value, isValueByte b = true

/-- Two appends of different names, one right after the other, change places. -/
inductive Swapped : List (Bytes × Bytes) → List (Bytes × Bytes) → Prop where
  | swap (before : List (Bytes × Bytes)) (first second : Bytes × Bytes)
      (after : List (Bytes × Bytes)) (different : lowerName first.1 ≠ lowerName second.1) :
      Swapped (before ++ first :: second :: after) (before ++ second :: first :: after)

/-- The values that are appended under a name, in order. -/
def appended (name : String) (pairs : List (Bytes × Bytes)) : List Bytes :=
  (pairs.filter fun pair => lowerName pair.1 == name).map Prod.snd

variable {name value : Bytes} {pairs others : List (Bytes × Bytes)}

theorem appendable_iff : Appendable name value ↔
    name.isEmpty = false ∧ name.length ≤ maxNameLength ∧ name.all isTokenByte = true ∧
      value.all isValueByte = true := by
  rw [List.isEmpty_eq_false_iff, List.all_eq_true, List.all_eq_true]
  constructor
  · rintro ⟨named, short, token, legal⟩
    exact ⟨named, short, token, legal⟩
  · rintro ⟨named, short, token, legal⟩
    exact ⟨named, short, token, legal⟩

instance (name value : Bytes) : Decidable (Appendable name value) :=
  decidable_of_iff _ appendable_iff.symm

theorem headerName?_of_appendable (h : Appendable name value) :
    headerName? name = some (lowerName name) := by
  obtain ⟨named, short, token, -⟩ := appendable_iff.1 h
  have lower (text : String) : text.toLower = text.map Char.toLower := rfl
  unfold headerName? token?
  rw [if_neg (Nat.not_lt.2 short), named, token]
  apply congrArg some
  apply String.toList_inj.1
  simp [lower, lowerName, Function.comp_def]

theorem field?_of_appendable (h : Appendable name value) :
    Headers.field? name value = .ok (lowerName name, value) := by
  unfold Headers.field?
  obtain ⟨-, -, -, legal⟩ := appendable_iff.1 h
  rw [headerName?_of_appendable h]
  simp [legal]

/-- Appends that are legal are all accepted. -/
theorem ofPairs?_of_appendable (h : ∀ pair ∈ pairs, Appendable pair.1 pair.2) :
    Headers.ofPairs? pairs = .ok ⟨pairs.map fun pair => (lowerName pair.1, pair.2)⟩ := by
  have accepted : (pairs.mapM fun pair => Headers.field? pair.1 pair.2) =
      .ok (pairs.map fun pair => (lowerName pair.1, pair.2)) := by
    induction pairs with
    | nil => rfl
    | cons pair rest ih =>
      have hfirst := field?_of_appendable (h pair List.mem_cons_self)
      have hrest := ih fun pair hpair => h pair (List.mem_cons_of_mem _ hpair)
      rw [List.mapM_cons, hfirst, hrest]
      rfl
  unfold Headers.ofPairs?
  rw [accepted]
  rfl

theorem Swapped.appended_eq (h : Swapped pairs others) (name : String) :
    appended name others = appended name pairs := by
  cases h with
  | swap before first second after different =>
    unfold appended
    simp only [List.filter_append, List.filter_cons, beq_iff_eq]
    by_cases hfirst : lowerName first.1 = name
    · have hsecond : lowerName second.1 ≠ name := fun heq => different (hfirst.trans heq.symm)
      simp only [if_pos hfirst, if_neg hsecond]
    · simp only [if_neg hfirst]

theorem appended_of_swaps (h : Relation.ReflTransGen Swapped pairs others) (name : String) :
    appended name others = appended name pairs := by
  induction h with
  | refl => rfl
  | tail _ swap ih => exact (swap.appended_eq name).trans ih

theorem appendable_of_swaps (h : Relation.ReflTransGen Swapped pairs others)
    (legal : ∀ pair ∈ pairs, Appendable pair.1 pair.2) :
    ∀ pair ∈ others, Appendable pair.1 pair.2 := by
  induction h with
  | refl => exact legal
  | tail _ swap ih =>
    cases swap with
    | swap before first second after different =>
      intro pair hpair
      apply ih
      simp only [List.mem_append, List.mem_cons] at hpair ⊢
      tauto

end Http

namespace UrlEvent

open Http (Appendable Swapped appended lowerName)

/-! ## Joining -/

/-- Header fields joined name by name: for each of some names but the host, all its values. -/
def joinedByName (headers : Http.Headers) (names : List String) : Dictionary String :=
  Dictionary.ofList ((names.filter fun name => name ≠ hostName).map fun name =>
    (name, String.intercalate "," ((headers.values name).map Text.Utf8.lossy)))

/-- The text that is shown for a name with given values, if it is shown. -/
def shownText? (name : String) (values : List Bytes) : Option String :=
  if name = hostName then none else joinedText? (values.map Text.Utf8.lossy)

theorem get?_joinedHeaders (headers : Http.Headers) (name : String) :
    (joinedHeaders headers).get? name = shownText? name (headers.values name) := by
  unfold joinedHeaders shownText?
  rw [get?_joined, valuesOf_map, List.filter_filter]
  split
  · next host =>
    subst host
    have none : (headers.fields.filter fun field =>
        (field.1 == hostName) && decide (field.1 ≠ hostName)) = [] := by
      simp
    rw [none]
    rfl
  · next other =>
    have same : (headers.fields.filter fun field =>
        (field.1 == name) && decide (field.1 ≠ hostName)) =
          headers.fields.filter fun field => field.1 == name := by
      apply List.filter_congr
      intro field hfield
      by_cases heq : field.1 = name <;> simp [heq, other]
    rw [same]
    rfl

theorem get?_joinedByName (headers : Http.Headers) (names : List String) (name : String) :
    (joinedByName headers names).get? name =
      if name ∈ names ∧ name ≠ hostName then
        some (String.intercalate "," ((headers.values name).map Text.Utf8.lossy))
      else none := by
  unfold joinedByName Dictionary.ofList
  rw [Dictionary.get?_insertAll, ← List.map_reverse, Dictionary.find?_map_mk, Dictionary.get?_empty,
    Option.or_none]
  simp

theorem values_ne_nil_iff {headers : Http.Headers} {name : String} :
    headers.values name ≠ [] ↔ name ∈ headers.fields.map Prod.fst := by
  unfold Http.Headers.values
  simp [List.filter_eq_nil_iff]

/-- Going through the names in any order joins the same. -/
theorem joinedByName_eq {headers : Http.Headers} {names : List String}
    (all : ∀ name, name ∈ names ↔ name ∈ headers.fields.map Prod.fst) :
    joinedByName headers names = joinedHeaders headers := by
  apply Dictionary.ext_get?
  intro name
  have mem : name ∈ names ↔ headers.values name ≠ [] := (all name).trans values_ne_nil_iff.symm
  rw [get?_joinedByName, get?_joinedHeaders]
  unfold shownText?
  by_cases host : name = hostName
  · rw [if_pos host, if_neg fun shown => shown.2 host]
  · rw [if_neg host]
    by_cases none : headers.values name = []
    · rw [if_neg fun shown => mem.1 shown.1 none, none]
      rfl
    · have texts : (headers.values name).map Text.Utf8.lossy ≠ [] := by simpa using none
      rw [if_pos ⟨mem.2 none, host⟩, joinedText?_of_ne_nil texts]

theorem values_of_appends (pairs : List (Bytes × Bytes)) (name : String) :
    (Http.Headers.mk (pairs.map fun pair => (lowerName pair.1, pair.2))).values name =
      appended name pairs := by
  unfold Http.Headers.values appended
  rw [List.filter_map, List.map_map]
  rfl

/-- Header fields that are appended with legal names and values are all accepted. What is joined of
    them shows each name other than the host, in lower case, with all values that were appended
    under it, in order and decoded lossily. Joining name by name, in whatever order, gives the same,
    and so do the appends when those of different names are interleaved in another way. -/
theorem joined_of_appends {pairs : List (Bytes × Bytes)}
    (legal : ∀ pair ∈ pairs, Appendable pair.1 pair.2) :
    ∃ headers, Http.Headers.ofPairs? pairs = .ok headers ∧
      (∀ name, (joinedHeaders headers).get? name = shownText? name (appended name pairs)) ∧
      (∀ names, (∀ name, name ∈ names ↔ name ∈ pairs.map fun pair => lowerName pair.1) →
        joinedByName headers names = joinedHeaders headers) ∧
      ∀ others, Relation.ReflTransGen Swapped pairs others →
        (Http.Headers.ofPairs? others).map joinedHeaders = .ok (joinedHeaders headers) := by
  refine ⟨_, Http.ofPairs?_of_appendable legal, ?_, ?_, ?_⟩
  · intro name
    rw [get?_joinedHeaders, values_of_appends]
  · intro names all
    apply joinedByName_eq
    intro name
    rw [all, List.map_map]
    rfl
  · intro others swaps
    rw [Http.ofPairs?_of_appendable (Http.appendable_of_swaps swaps legal)]
    apply congrArg Except.ok
    apply Dictionary.ext_get?
    intro name
    rw [get?_joinedHeaders, get?_joinedHeaders, values_of_appends, values_of_appends,
      Http.appended_of_swaps swaps]

/-- Appends with two others in between. With `spelledLower` among these, one name is appended in
    three spellings. The last value is empty. -/
def spelledAround (first second : Bytes × Bytes) : List (Bytes × Bytes) :=
  [(Text.Utf8.bytes "X-Tag", [0x61]), (Text.Utf8.bytes "Host", [0x68])] ++
    first :: second :: [(Text.Utf8.bytes "X-TAG", [])]

/-- An append of a value that is not UTF-8. -/
def spelledLower : Bytes × Bytes :=
  (Text.Utf8.bytes "x-tag", [0xFF])

/-- An append under another name. -/
def spelledOther : Bytes × Bytes :=
  (Text.Utf8.bytes "Accept", [0x2A])

theorem joined_of_appends_spelledThrice :
    ∃ headers, Http.Headers.ofPairs? (spelledAround spelledLower spelledOther) = .ok headers ∧
      (joinedHeaders headers).get? "x-tag" = some "a,\uFFFD," ∧
      (joinedHeaders headers).get? "host" = none ∧
      joinedByName headers ["x-tag", "accept", "host"] = joinedHeaders headers ∧
      (Http.Headers.ofPairs? (spelledAround spelledOther spelledLower)).map joinedHeaders =
        .ok (joinedHeaders headers) := by
  have legal : ∀ pair ∈ spelledAround spelledLower spelledOther, Appendable pair.1 pair.2 := by
    decide +kernel
  obtain ⟨headers, accepted, shown, byName, unmoved⟩ := joined_of_appends legal
  have swap : Swapped (spelledAround spelledLower spelledOther)
      (spelledAround spelledOther spelledLower) :=
    .swap _ spelledLower spelledOther _ (by decide +kernel)
  refine ⟨headers, accepted, ?_, ?_, ?_, unmoved _ (.single swap)⟩
  · rw [shown]
    decide +kernel
  · rw [shown]
    decide +kernel
  · apply byName
    intro name
    have names : (spelledAround spelledLower spelledOther).map (fun pair => lowerName pair.1) =
        ["x-tag", "host", "x-tag", "accept", "x-tag"] := by
      decide +kernel
    rw [names]
    simp only [List.mem_cons, List.not_mem_nil, or_false]
    constructor
    · rintro (rfl | rfl | rfl) <;> simp
    · rintro (rfl | rfl | rfl | rfl | rfl) <;> simp

end UrlEvent

end FunctionHost
