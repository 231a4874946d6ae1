-- SUMMARY: The utility that searches texts for lines that match patterns.
import FunctionHost.Rehearsal.Shell.Regex
import FunctionHost.Rehearsal.Shell.Utility.Request

/-! # Searching texts

The lines of files are selected that some pattern matches, or those that none does. The status tells
whether there were any. -/

namespace FunctionHost.Rehearsal.Shell

/-- How patterns are searched for in lines. -/
structure Hunt where
  patterns : List Regex
  anyCase : Bool
  wholeLines : Bool
  wholeWords : Bool
  inverted : Bool

namespace Hunt

/-- Whether the part of a text between two places is not inside a longer word. -/
def isWholeWord (text : Array Char) (first last : Nat) : Bool :=
  (first = 0 || !(text[first - 1]?).any Regex.isOfWord) && !(text[last]?).any Regex.isOfWord

/-- The first match of any pattern in a line from a place on, with its end. -/
def match? (h : Hunt) (text : Array Char) (place : Nat) : Option (Nat × Nat) :=
  ((List.range (text.size + 1)).drop place).findSome? fun first =>
    let ends := h.patterns.flatMap fun r =>
      ((r.ends h.anyCase text ⟨first, []⟩).map (·.place)).filter fun last =>
        (!h.wholeLines || first = 0 && last = text.size)
          && (!h.wholeWords || isWholeWord text first last)
    if ends.isEmpty then none else some (first, ends.foldl max 0)

/-- Whether a line is selected. -/
def selects (h : Hunt) (line : List Char) : Bool :=
  (h.match? line.toArray 0).isSome != h.inverted

/-- The parts of a line that match, one after the other. -/
def parts (h : Hunt) (fuel : Nat) (text : Array Char) (place : Nat) : List (List Char) :=
  match fuel with
  | 0 => []
  | fuel + 1 =>
    match h.match? text place with
    | none => []
    | some (first, last) =>
      if first = last then h.parts fuel text (last + 1)
      else (text.extract first last).toList :: h.parts fuel text last

end Hunt

namespace Request

/-- The patterns to search for and the files to search in, if the patterns are well formed. -/
def hunt? (r : Request) : Except Answer (Hunt × List String) := do
  let fromFiles ← (r.valuesOf 'f').mapM fun path =>
    match r.content path with
    | .ok text => pure ((linesOf text).map String.ofList)
    | .error fault => throw (r.refuse (path ++ ": " ++ fault.name))
  let named := !(r.valuesOf 'e').isEmpty || !(r.valuesOf 'f').isEmpty
  let (texts, paths) ←
    if named then
      let fromWords := (r.valuesOf 'e').flatMap fun text => text.splitOn "\n"
      pure (fromWords ++ fromFiles.flatten, r.operands)
    else
      match r.operands with
      | pattern :: paths => pure (pattern.splitOn "\n", paths)
      | [] => throw (r.refuse "missing pattern")
  let fixed := r.has 'F' || r.name = "fgrep"
  let extended := r.has 'E' || r.has 'P' || r.name = "egrep"
  let patterns ← texts.mapM fun text =>
    match if fixed then some (Regex.ofText text.toList) else Regex.parse? extended text.toList with
    | some pattern => pure pattern
    | none => throw (r.refuse "invalid regular expression")
  return (⟨patterns, r.has 'i' || r.has 'y', r.has 'x', r.has 'w', r.has 'v'⟩, paths)

/-- What is written about one text. -/
def found (r : Request) (h : Hunt) (title : List Char) (text : List Char) : List Char × Bool :=
  let all := (linesOf text).zipIdx.filter fun (line, _) => h.selects line
  let all := match (r.value? 'm').bind String.toNat? with
    | some most => all.take most
    | none => all
  let mark (i : Nat) : List Char :=
    title ++ (if r.has 'n' then (toString (i + 1)).toList ++ [':'] else [])
  let path := title.dropLast
  let output :=
    if r.has 'q' || r.hasNamed "silent" then []
    else if r.has 'l' then (if all.isEmpty then [] else path ++ ['\n'])
    else if r.has 'L' then (if all.isEmpty then path ++ ['\n'] else [])
    else if r.has 'c' then title ++ (toString all.length).toList ++ ['\n']
    else if r.has 'o' then
      all.flatMap fun (line, i) =>
        if h.inverted then []
        else (h.parts (line.length + 2) line.toArray 0).flatMap fun part => mark i ++ part ++ ['\n']
    else all.flatMap fun (line, i) => mark i ++ line ++ ['\n']
  (output, !all.isEmpty)

/-- The files below some paths, or below the directory where the search starts. -/
def filesBelow (r : Request) (paths : List String) : List String :=
  let below (start : List String) (place : Host.Place) : List String :=
    (r.tree.nodes.filterMap fun (other, node) =>
      match node with
      | .file _ _ =>
        if place.isPrefixOf other then
          some (String.intercalate "/" (start ++ other.drop place.length))
        else none
      | _ => none).mergeSort (· ≤ ·)
  if paths.isEmpty then below [] r.here
  else
    paths.flatMap fun path =>
      match r.tree.directory? r.here path with
      | .error _ => [path]
      | .ok place => below [path] place

/-- The lines that match patterns. -/
def grep (r : Request) : Answer :=
  match r.hunt? with
  | .error answer => answer
  | .ok (h, paths) =>
    let below := r.has 'r' || r.has 'R'
    let paths := if below then r.filesBelow paths else paths
    let (read, complaints) := if below && paths.isEmpty then ([], []) else r.contents paths
    let titled := (paths.length > 1 || r.has 'H' || below) && !r.has 'h' || r.has 'l' || r.has 'L'
    let results := read.map fun (path, text) =>
      let name := if path.isEmpty || path = "-" then "(standard input)" else path
      r.found h (if titled then name.toList ++ [':'] else []) text
    let hit := results.any Prod.snd
    let quiet := r.has 'q' || r.hasNamed "silent"
    let status :=
      if hit && (quiet || complaints.isEmpty) then 0
      else if !complaints.isEmpty then 2 else 1
    let complaints := if r.has 's' then [] else complaints
    { r.answer (results.flatMap Prod.fst) status with complaints }

end Request

end FunctionHost.Rehearsal.Shell
