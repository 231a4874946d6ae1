-- SUMMARY: Patterns for paths: the paths of a host that they match.
import FunctionHost.Rehearsal.Host.Tree
import FunctionHost.Rehearsal.Shell.Pattern

/-! # Patterns for paths

A pattern for paths is a row of patterns for names with slashes in between. A name that starts with
a dot is only matched by a pattern that starts with one too. -/

namespace FunctionHost.Rehearsal.Shell.Pattern

/-- The text that letters stand for themselves. -/
def plainText (letters : List Letter) : String :=
  String.ofList (letters.map Prod.fst)

/-- The patterns for names in a pattern for paths. -/
def nameParts (letters : List Letter) : List (List Letter) :=
  letters.foldr (fun letter parts =>
    if letter.1 = '/' then [] :: parts
    else
      match parts with
      | part :: rest => (letter :: part) :: rest
      | [] => [[letter]]) [[]]

/-- Whether a pattern for names matches a name. -/
def matchesName (pattern : List Letter) (name : String) : Bool :=
  matchesText (ofLetters pattern) name.toList
    && (name.front ≠ '.' || (pattern.head?.map Prod.fst) = some '.')

/-- The paths that patterns for names match from a place on, put behind the path of the place.
    Besides its entries, a directory may hold itself and the directory above it. -/
def pathsFrom (tree : Host.Tree) (own : List String) (place : Host.Place) (path : String) :
    List (List Letter) → List String
  | [] => [path]
  | part :: rest =>
    let separator := if rest.isEmpty then "" else "/"
    let names :=
      if !isWild part then [plainText part]
      else
        match tree.node? place with
        | some .directory => (own ++ tree.names place).filter (matchesName part)
        | _ => []
    names.flatMap fun name =>
      match tree.walk place [name] with
      | .ok next => pathsFrom tree own next (path ++ name ++ separator) rest
      | .error _ => []

/-- The paths that a pattern matches in order, with names that each directory holds besides its
    entries. -/
def paths (tree : Host.Tree) (own : List String) (here : Host.Place) (letters : List Letter) :
    List String :=
  let found := match nameParts letters with
    | [] :: rest => if rest.isEmpty then [] else pathsFrom tree own [] "/" rest
    | parts => pathsFrom tree own here "" parts
  found.mergeSort (· ≤ ·)

end FunctionHost.Rehearsal.Shell.Pattern
