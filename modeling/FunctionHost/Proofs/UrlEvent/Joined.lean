-- SUMMARY: Joining keeps all values of a name, in order, and composes.
import FunctionHost.Proofs.Dictionary
import FunctionHost.UrlEvent.Query
import Mathlib.Data.List.Induction

/-! # Values joined by name

Pairs of a name and a value are joined into one text for each name. The text is made of all values
of the name, in their order, and the pairs of other names do not matter. So what is joined of two
lists one after the other is joined of what each of them gives. -/

namespace FunctionHost.UrlEvent

/-- The values of a name among pairs, in order of arrival. -/
def valuesOf (name : String) (pairs : List (String × String)) : List String :=
  (pairs.filter fun pair => pair.1 == name).map Prod.snd

/-- Values, if there are any. -/
def nonEmpty? (values : List String) : Option (List String) :=
  if values = [] then none else some values

/-- Values joined by commas, if there are any. -/
def joinedText? (values : List String) : Option String :=
  (nonEmpty? values).map fun values => String.intercalate "," values

/-- Two texts with a comma between them. -/
def withComma (first second : String) : String :=
  first ++ "," ++ second

variable {pairs first second : List (String × String)} {name : String}

theorem valuesOf_append (name : String) (first second : List (String × String)) :
    valuesOf name (first ++ second) = valuesOf name first ++ valuesOf name second := by
  simp [valuesOf]

theorem valuesOf_map {α : Type} (f : α → String) (name : String) (fields : List (String × α)) :
    valuesOf name (fields.map fun (key, value) => (key, f value)) =
      ((fields.filter fun field => field.1 == name).map Prod.snd).map f := by
  unfold valuesOf
  rw [List.filter_map, List.map_map, List.map_map]
  rfl

theorem collect_concat (pairs : List (String × String)) (pair : String × String) :
    collect (pairs ++ [pair]) =
      (collect pairs).alter pair.1 fun known => known.getD [] ++ [pair.2] := by
  unfold collect
  rw [List.foldl_append]
  rfl

/-- Each name is collected with all its values. The induction is on the pairs from their end, where
    the latest value is put. -/
theorem get?_collect (pairs : List (String × String)) (name : String) :
    (collect pairs).get? name = nonEmpty? (valuesOf name pairs) := by
  induction pairs using List.reverseRecOn with
  | nil => rfl
  | append_singleton pairs pair ih =>
    rw [collect_concat, Dictionary.get?_alter, valuesOf_append]
    split
    · next same =>
      subst same
      have last : valuesOf pair.1 [pair] = [pair.2] := by simp [valuesOf]
      rw [last, ih]
      unfold nonEmpty?
      split
      · next none => simp [none]
      · simp
    · next other =>
      have none : valuesOf name [pair] = [] := by simpa [valuesOf] using Ne.symm other
      rw [none, List.append_nil, ih]

theorem get?_joined (pairs : List (String × String)) (name : String) :
    (joined pairs).get? name = joinedText? (valuesOf name pairs) := by
  unfold joined joinedText?
  rw [Dictionary.get?_map, get?_collect]

theorem joinedText?_of_ne_nil {values : List String} (some : values ≠ []) :
    joinedText? values = .some (String.intercalate "," values) := by
  unfold joinedText? nonEmpty?
  rw [if_neg some]
  rfl

theorem joinedText?_append (first second : List String) :
    joinedText? (first ++ second) = (joinedText? first).merge withComma (joinedText? second) := by
  unfold joinedText? nonEmpty?
  by_cases noneFirst : first = []
  · subst noneFirst
    simp
  · by_cases noneSecond : second = []
    · subst noneSecond
      simp [noneFirst]
    · simp [noneFirst, noneSecond, String.intercalate_append_of_ne_nil, withComma]

/-- What is joined of two lists one after the other. -/
theorem get?_joined_append (first second : List (String × String)) (name : String) :
    (joined (first ++ second)).get? name =
      ((joined first).get? name).merge withComma ((joined second).get? name) := by
  rw [get?_joined, get?_joined, get?_joined, valuesOf_append, joinedText?_append]

end FunctionHost.UrlEvent
