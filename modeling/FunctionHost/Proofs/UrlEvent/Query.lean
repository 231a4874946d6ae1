-- SUMMARY: Query parameters compose, and every value of a name is kept, however the name is written.
import FunctionHost.Proofs.Text.Percent
import FunctionHost.Proofs.Text.Utf8
import FunctionHost.Proofs.UrlEvent.Joined
import Mathlib.Data.List.Forall2
import Mathlib.Data.List.TakeWhile

/-! # Parameters of a query

A query lists parameters between its ampersands. What it lists is said here without cutting it up:
its pieces, joined by ampersands, are the query, and each piece that is not empty states a name and
a value. The same name may be written in many ways. A query lists exactly one sequence of
parameters, and all values of a name in it are joined, in their order. Of two queries with an
ampersand between them, both are listed, one after the other. -/

namespace FunctionHost.UrlEvent

open Text (Percent.StandsFor)

namespace Query

/-! ## What a query lists -/

/-- Bytes of a query stand for a text. A plus sign is a space, escapes are undone, and what is not
    UTF-8 is replaced. -/
def StandsFor (bs : Bytes) (text : String) : Prop :=
  ∃ plain, Percent.StandsFor (bs.map fun b => if b = plus then 0x20 else b) plain ∧
    text = Text.Utf8.lossy plain

/-- A piece of a query states a name and a value. They stand around its first equals sign, and a
    piece without one states a name with the empty value. -/
inductive States : Bytes → String × String → Prop where
  | pair {name value : Bytes} {nameText valueText : String} (first : equals ∉ name)
      (hname : StandsFor name nameText) (hvalue : StandsFor value valueText) :
      States (name ++ equals :: value) (nameText, valueText)
  | bare {name : Bytes} {nameText : String} (noEquals : equals ∉ name)
      (hname : StandsFor name nameText) : States name (nameText, "")

/-- A query lists parameters: the pieces between its ampersands state them in order, except for
    empty pieces, which state none. -/
def Lists (query : Bytes) (params : List (String × String)) : Prop :=
  ∃ pieces : List Bytes, pieces ≠ [] ∧ (∀ piece ∈ pieces, ampersand ∉ piece) ∧
    [ampersand].intercalate pieces = query ∧
    List.Forall₂ States (pieces.filter fun piece => !piece.isEmpty) params

/-! ## Pieces -/

variable {bs piece query : Bytes} {text : String} {param : String × String}
  {params : List (String × String)}

theorem standsFor_iff : StandsFor bs text ↔ decode bs = text := by
  unfold StandsFor decode
  simp only [Text.Percent.standsFor_iff, exists_eq_left']
  exact eq_comm

theorem decode_nil : decode [] = "" := by
  decide +kernel

theorem parameter_pair {name : Bytes} (first : equals ∉ name) (value : Bytes) :
    parameter (name ++ equals :: value) = (decode name, decode value) := by
  have before : ∀ b ∈ name, (decide (b ≠ equals)) = true := by
    intro b hb
    exact decide_eq_true fun heq => first (heq ▸ hb)
  unfold parameter
  rw [List.takeWhile_append_of_pos before, List.dropWhile_append_of_pos before]
  simp

theorem parameter_bare {name : Bytes} (noEquals : equals ∉ name) :
    parameter name = (decode name, "") := by
  have all : ∀ b ∈ name, (decide (b ≠ equals)) = true := by
    intro b hb
    exact decide_eq_true fun heq => noEquals (heq ▸ hb)
  unfold parameter
  rw [List.takeWhile_eq_self_iff.2 all, List.dropWhile_eq_nil_iff.2 all, List.drop_nil, decode_nil]

/-- A piece states the one parameter that is read from it. -/
theorem states_iff : States piece param ↔ parameter piece = param := by
  constructor
  · intro h
    cases h with
    | pair first hname hvalue =>
      rw [parameter_pair first, standsFor_iff.1 hname, standsFor_iff.1 hvalue]
    | bare noEquals hname => rw [parameter_bare noEquals, standsFor_iff.1 hname]
  · rintro rfl
    by_cases mem : equals ∈ piece
    · obtain ⟨name, value, rfl, first⟩ := List.eq_append_cons_of_mem mem
      rw [parameter_pair first]
      exact .pair first (standsFor_iff.2 rfl) (standsFor_iff.2 rfl)
    · rw [parameter_bare mem]
      exact .bare mem (standsFor_iff.2 rfl)

theorem forall₂_states_iff {pieces : List Bytes} :
    List.Forall₂ States pieces params ↔ params = pieces.map parameter := by
  have same : States = fun piece param => parameter piece = param := by
    funext piece param
    exact propext states_iff
  rw [same, ← List.forall₂_map_left_iff, List.forall₂_eq_eq_eq]
  exact eq_comm

/-- No piece goes across an ampersand. -/
theorem not_mem_of_mem_pieces (h : piece ∈ pieces bs) : ampersand ∉ piece := by
  unfold pieces at h
  induction bs generalizing piece with
  | nil =>
    obtain rfl : piece = [] := by simpa using h
    exact List.not_mem_nil
  | cons b rest ih =>
    rw [List.splitOn_cons_eq_if_modifyHead] at h
    split at h
    · rcases List.mem_cons.1 h with rfl | h
      · exact List.not_mem_nil
      · exact ih h
    · next other =>
      obtain ⟨head, tail, split⟩ :=
        List.exists_cons_of_ne_nil (List.splitOnP_ne_nil (· == ampersand) rest)
      rw [List.splitOn_eq_splitOnP, split, List.modifyHead_cons] at h
      rw [List.splitOn_eq_splitOnP, split] at ih
      rcases List.mem_cons.1 h with rfl | h
      · have hb : ampersand ≠ b := fun heq => other (beq_iff_eq.2 heq.symm)
        exact List.not_mem_cons_of_ne_of_not_mem hb (ih List.mem_cons_self)
      · exact ih (List.mem_cons_of_mem head h)

theorem pieces_append (first second : Bytes) :
    pieces (first ++ ampersand :: second) = pieces first ++ pieces second :=
  List.splitOnP_append_cons first second (beq_self_eq_true ampersand)

/-- A query lists exactly the parameters that are read from it. -/
theorem lists_iff : Lists query params ↔ params = parameters query := by
  unfold Lists parameters
  simp only [forall₂_states_iff]
  constructor
  · rintro ⟨parts, some, apart, rfl, rfl⟩
    unfold pieces
    rw [List.splitOn_intercalate ampersand apart some]
  · intro h
    exact ⟨pieces query, List.splitOnP_ne_nil _ query, fun _ => not_mem_of_mem_pieces,
      List.intercalate_splitOn ampersand, h⟩

theorem parameters_append (first second : Bytes) :
    parameters (first ++ ampersand :: second) = parameters first ++ parameters second := by
  unfold parameters
  rw [pieces_append, List.filter_append, List.map_append]

end Query

theorem bytes_join (first second : String) :
    Text.Utf8.bytes (first ++ "&" ++ second) =
      Text.Utf8.bytes first ++ Query.ampersand :: Text.Utf8.bytes second := by
  have between : Text.Utf8.bytes "&" = [Query.ampersand] := by decide +kernel
  rw [Text.Utf8.bytes_append, Text.Utf8.bytes_append, between, List.append_assoc]
  rfl

/-- Two queries with an ampersand between them have the names of both. A name of only one keeps its
    text, and one of both has the text of the first, a comma and the text of the second. So for
    every query, which lists exactly one sequence of parameters, each name in it has one text, made
    of all its values in order, however the name was written and also where values are empty. -/
theorem parameters_compose :
    (∀ (first second name : String), (queryParameters (first ++ "&" ++ second)).get? name =
      ((queryParameters first).get? name).merge withComma ((queryParameters second).get? name)) ∧
    ∀ query, ∃ params, (∀ others, Query.Lists (Text.Utf8.bytes query) others ↔ others = params) ∧
      ∀ name, (queryParameters query).get? name = joinedText? (valuesOf name params) := by
  constructor
  · intro first second name
    unfold queryParameters
    rw [bytes_join, Query.parameters_append, get?_joined_append]
  · intro query
    refine ⟨Query.parameters (Text.Utf8.bytes query), fun others => Query.lists_iff, ?_⟩
    intro name
    exact get?_joined _ name

example : (queryParameters "a=1&%61=&b&&+=%FF&%20=2&a=3").entries =
    [(" ", "\uFFFD,2"), ("a", "1,,3"), ("b", "")] := by
  decide +kernel

end FunctionHost.UrlEvent
