-- SUMMARY: The utility that visits everything below some paths, with tests for what it tells.
import FunctionHost.Rehearsal.Shell.Pattern
import FunctionHost.Rehearsal.Shell.Utility.Files

/-! # Visiting files

An expression of words tells what to do with everything that is found below some paths. Its tests
are joined by and, or and not, and an action counts as a test that holds. -/

namespace FunctionHost.Rehearsal.Shell

/-- What is asked about everything that is found. -/
inductive Survey where
  | always (holds : Bool)
  | named (pattern : List Wildcard) (anyCase whole : Bool)
  | kind (letters : List Char)
  | bare
  | tell (separator : Char)
  | remove
  | stop
  | prune
  | neither (a : Survey)
  | both (a b : Survey)
  | either (a b : Survey)
  deriving Repr, DecidableEq

namespace Survey

/-- How deep to look. -/
structure Depths where
  least : Nat
  most : Option Nat

/-- A pattern in a word. -/
def pattern (text : String) : List Wildcard :=
  Pattern.ofLetters (text.toList.map fun c => (c, false))

mutual

/-- A survey with alternatives, and the words after it. -/
def alternatives? : Nat → Depths → List String → Option (Survey × Depths × List String)
  | 0, _, _ => none
  | n + 1, d, words => do
    let (first, d, rest) ← sequence? n d words
    match rest with
    | word :: rest =>
      if word = "-o" || word = "-or" then
        let (second, d, rest) ← alternatives? n d rest
        return (.either first second, d, rest)
      return (first, d, word :: rest)
    | [] => return (first, d, [])

/-- A survey of tests that all have to hold, and the words after it. -/
def sequence? : Nat → Depths → List String → Option (Survey × Depths × List String)
  | 0, _, _ => none
  | n + 1, d, words => do
    let (first, d, rest) ← single? n d words
    match rest with
    | [] => return (first, d, [])
    | word :: more =>
      if word = ")" || word = "-o" || word = "-or" || word = "," then return (first, d, rest)
      let (second, d, rest) ← sequence? n d (if word = "-a" || word = "-and" then more else rest)
      return (.both first second, d, rest)

/-- A single test, and the words after it. -/
def single? : Nat → Depths → List String → Option (Survey × Depths × List String)
  | 0, _, _ => none
  | n + 1, d, words =>
    match words with
    | "!" :: rest => (single? n d rest).map fun (a, d, rest) => (.neither a, d, rest)
    | "-not" :: rest => (single? n d rest).map fun (a, d, rest) => (.neither a, d, rest)
    | "(" :: rest => do
      let (a, d, rest) ← alternatives? n d rest
      match rest with
      | ")" :: rest => return (a, d, rest)
      | _ => none
    | "-true" :: rest => some (.always true, d, rest)
    | "-false" :: rest => some (.always false, d, rest)
    | "-print" :: rest => some (.tell '\n', d, rest)
    | "-print0" :: rest => some (.tell '\x00', d, rest)
    | "-ls" :: rest => some (.tell '\n', d, rest)
    | "-delete" :: rest => some (.remove, d, rest)
    | "-quit" :: rest => some (.stop, d, rest)
    | "-prune" :: rest => some (.prune, d, rest)
    | "-empty" :: rest => some (.bare, d, rest)
    | "-depth" :: rest => some (.always true, d, rest)
    | "-xdev" :: rest => some (.always true, d, rest)
    | "-mount" :: rest => some (.always true, d, rest)
    | "-name" :: text :: rest => some (.named (pattern text) false false, d, rest)
    | "-iname" :: text :: rest => some (.named (pattern text) true false, d, rest)
    | "-path" :: text :: rest => some (.named (pattern text) false true, d, rest)
    | "-ipath" :: text :: rest => some (.named (pattern text) true true, d, rest)
    | "-type" :: text :: rest =>
      let letters := (text.toList.filter (· ≠ ','))
      if letters.isEmpty || letters.any fun c => !"bcdpflsD".contains c then none
      else some (.kind letters, d, rest)
    | "-maxdepth" :: text :: rest =>
      text.toNat?.map fun most => (.always true, { d with most := some most }, rest)
    | "-mindepth" :: text :: rest =>
      text.toNat?.map fun least => (.always true, { d with least }, rest)
    | _ => none

end

/-- Whether there is an action in a survey. -/
def acts : Survey → Bool
  | .tell _ => true
  | .remove => true
  | .stop => true
  | .neither a => a.acts
  | .both a b => a.acts || b.acts
  | .either a b => a.acts || b.acts
  | _ => false

/-- What has been told so far, and the files as they are by now. -/
structure State where
  output : List (List Char)
  tree : Host.Tree
  pruned : List Host.Place
  stopped : Bool
  failed : Bool

/-- The letter for what is at a place. -/
def kindOf (node : Host.Node) : Char :=
  match node with
  | .directory => 'd'
  | .link _ _ => 'l'
  | .void => 'c'
  | _ => 'f'

/-- Whether a survey holds of what is at a place, and what it has done. -/
def holds (path : String) (place : Host.Place) (node : Host.Node) :
    Survey → State → Bool × State
  | .always b, s => (b, s)
  | .named pattern anyCase whole, s =>
    let text := (if whole then path else Request.baseName path).toList
    (if anyCase then
        Pattern.matchesText (pattern.map fun
          | .exactly c => .exactly c.toLower
          | other => other) (text.map Char.toLower)
      else Pattern.matchesText pattern text, s)
  | .kind letters, s => (letters.contains (kindOf node), s)
  | .bare, s =>
    (match node with
      | .file content _ => content.isEmpty
      | .directory => (s.tree.names place).isEmpty
      | _ => false, s)
  | .tell separator, s => (true, { s with output := (path.toList ++ [separator]) :: s.output })
  | .remove, s =>
    if node = .directory && !(s.tree.names place).isEmpty then (false, { s with failed := true })
    else (true, { s with tree := s.tree.remove place })
  | .stop, s => (true, { s with stopped := true })
  | .prune, s => (true, { s with pruned := place :: s.pruned })
  | .neither a, s =>
    let (b, s) := a.holds path place node s
    (!b, s)
  | .both a b, s =>
    match a.holds path place node s with
    | (true, s) => if s.stopped then (true, s) else b.holds path place node s
    | (false, s) => (false, s)
  | .either a b, s =>
    match a.holds path place node s with
    | (true, s) => (true, s)
    | (false, s) => b.holds path place node s

/-- Whether a survey removes something. -/
def removes : Survey → Bool
  | .remove => true
  | .neither a => a.removes
  | .both a b => a.removes || b.removes
  | .either a b => a.removes || b.removes
  | _ => false

end Survey

namespace Request

/-- Visits everything below some paths. -/
def find (r : Request) : Answer :=
  let words := r.words.dropWhile fun word => ["-H", "-L", "-P"].contains word
  let isTest (word : String) : Bool :=
    word.length > 1 && word.front = '-' || ["(", ")", "!", ","].contains word
  let paths := words.takeWhile (!isTest ·)
  let rest := words.drop paths.length
  let paths := if paths.isEmpty then ["."] else paths
  if rest.contains "--help" || rest.contains "-help" || rest.contains "--version"
      || rest.contains "-version" then
    r.lines [r.name]
  else
    let none' : Survey.Depths := ⟨0, none⟩
    let parsed := if rest.isEmpty then some (.always true, none', [])
      else Survey.alternatives? (8 * rest.length + 16) none' rest
    match parsed with
    | some (survey, depths, []) =>
      let survey := if survey.acts then survey else .both survey (.tell '\n')
      let visit (s : Survey.State) (entry : String × Host.Place × Host.Node) : Survey.State :=
        let (path, place, node) := entry
        if s.stopped || s.pruned.any (·.isPrefixOf place) then s
        else (survey.holds path place node s).2
      let below (path : String) (place : Host.Place) : List (String × Host.Place × Host.Node) :=
        let nodes := (place, (r.tree.node? place).getD .directory)
          :: r.tree.nodes.filter fun (other, _) => place.isPrefixOf other && other ≠ place
        let found := nodes.filterMap fun (other, node) =>
          let depth := other.length - place.length
          let start := if path.endsWith "/" then path else path ++ "/"
          if depth < depths.least || depths.most.any (· < depth) then none
          else some (if depth = 0 then path
            else start ++ String.intercalate "/" (other.drop place.length), other, node)
        let ordered := found.mergeSort fun a b => a.1 ≤ b.1
        if survey.removes then ordered.reverse else ordered
      let found := paths.map fun path => (path, (r.tree.entry? r.here path).map Prod.fst)
      let entries := found.flatMap fun (path, place) =>
        match place with
        | .ok place => below path place
        | .error _ => []
      let complaints := found.filterMap fun (path, place) =>
        match place with
        | .error fault => some (r.complaintAbout path fault)
        | .ok _ => none
      let s := entries.foldl visit ⟨[], r.tree, [], false, false⟩
      ⟨s.output.reverse.flatten, complaints, if complaints.isEmpty && !s.failed then 0 else 1,
        s.tree, 0⟩
    | _ => r.complain 1 "bad expression"

end Request

end FunctionHost.Rehearsal.Shell
