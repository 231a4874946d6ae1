-- SUMMARY: The directories, files and programs of a host, and where paths lead among them.
import FunctionHost.Rehearsal.Host.Fault

/-! # File trees

Everything on a host has a place: the names on the way to it from the root. A path is followed name
by name, from the root or from a directory. Empty names and single dots stay where they are, two
dots go back, and all of them need a directory to be followed in. Names are sequences of bytes,
each of them a character below 256. -/

namespace FunctionHost.Rehearsal.Host

/-- The names on the way from the root. -/
abbrev Place := List String

/-- What is at a place. A program is known by its name, a link leads to another place by a path, and
    a void swallows what is written to it. -/
inductive Node where
  | directory
  | file (content : List Char) (executable : Bool)
  | program (name : String)
  | void
  | link (target : Place) (path : String)
  deriving Repr, DecidableEq

/-- What is where. The root is always a directory. -/
structure Tree where
  nodes : List (Place × Node)
  deriving Repr, DecidableEq, Inhabited

namespace Tree

/-- The longest name, in bytes. -/
def maxName : Nat := 255

/-- The length in bytes that a path stays below. -/
def maxPath : Nat := 4096

/-- What is at a place. -/
def node? (t : Tree) (place : Place) : Option Node :=
  if place.isEmpty then some .directory else t.nodes.lookup place

/-- A tree with something else at a place. -/
def put (t : Tree) (place : Place) (node : Node) : Tree :=
  ⟨(place, node) :: t.nodes.filter (·.1 ≠ place)⟩

/-- A tree with nothing at a place and below it. -/
def remove (t : Tree) (place : Place) : Tree :=
  ⟨t.nodes.filter fun (other, _) => !place.isPrefixOf other⟩

/-- The names in a directory. -/
def names (t : Tree) (place : Place) : List String :=
  (t.nodes.filterMap fun (other, _) =>
    if other.dropLast = place then other.getLast? else none).mergeSort (· ≤ ·)

/-- Where names lead that are followed from a place. -/
def walk (t : Tree) (here : Place) : List String → Except Fault Place
  | [] => .ok here
  | name :: rest =>
    match t.node? here with
    | some .directory =>
      if name.isEmpty || name = "." then t.walk here rest
      else if name = ".." then t.walk here.dropLast rest
      else if maxName < name.length then .error .nameTooLong
      else
        match t.node? (here ++ [name]) with
        | some (.link target _) =>
          if (t.node? target).isSome then t.walk target rest else .error .missing
        | some _ => t.walk (here ++ [name]) rest
        | none => .error .missing
    | some _ => .error .notDirectory
    | none => .error .missing

/-- The names in a path. -/
def pathNames (path : String) : List String :=
  path.splitOn "/"

/-- Whether a path starts at the root. -/
def isAbsolute (path : String) : Bool :=
  path.toList.head? = some '/'

/-- Where a path leads that is followed from a directory, or from the root if it starts with a
    slash. -/
def find (t : Tree) (here : Place) (path : String) : Except Fault Place :=
  if path.isEmpty then .error .missing
  else if maxPath ≤ path.length then .error .nameTooLong
  else t.walk (if isAbsolute path then [] else here) (pathNames path)

/-- The place of the last name in a path, where a link is not followed. -/
def entry? (t : Tree) (here : Place) (path : String) : Except Fault (Place × Node) := do
  let names := pathNames path
  let plain := (names.getLast?).any fun name => !name.isEmpty && name ≠ "." && name ≠ ".."
  let place ←
    if plain then
      let parent ← t.find here (if names.length = 1 then "."
        else String.intercalate "/" names.dropLast ++ "/")
      pure (parent ++ (names.getLast?).toList)
    else t.find here path
  match t.node? place with
  | some node => return (place, node)
  | none => throw .missing

/-- A tree in which everything at a place and below it is at another place too. -/
def copy (t : Tree) (source target : Place) : Tree :=
  let copied := t.nodes.filterMap fun (place, node) =>
    if source.isPrefixOf place then some (target ++ place.drop source.length, node) else none
  copied.foldl (fun t (place, node) => t.put place node) t

/-- What a path leads to. -/
def open? (t : Tree) (here : Place) (path : String) : Except Fault (Place × Node) := do
  let place ← t.find here path
  match t.node? place with
  | some node => return (place, node)
  | none => throw .missing

/-- Whether a path leads anywhere. -/
def leads (t : Tree) (here : Place) (path : String) : Bool :=
  (t.find here path).isOk

/-- The directory that a path leads to. -/
def directory? (t : Tree) (here : Place) (path : String) : Except Fault Place := do
  match ← t.open? here path with
  | (place, .directory) => return place
  | _ => throw .notDirectory

/-- Where a file is or would be made to which a path leads. -/
def forWriting (t : Tree) (here : Place) (path : String) : Except Fault (Place × Option Node) := do
  match t.open? here path with
  | .ok (_, .directory) => throw .isDirectory
  | .ok (place, node) => return (place, some node)
  | .error .missing =>
    let names := pathNames path
    match names.getLast? with
    | some name =>
      if name.isEmpty || name = "." || name = ".." then throw (if path.isEmpty then .missing
        else .isDirectory)
      let parent ← t.walk (if isAbsolute path then [] else here) names.dropLast
      match t.node? parent with
      | some .directory => return (parent ++ [name], none)
      | _ => throw .notDirectory
    | none => throw .missing
  | .error fault => throw fault

end Tree

end FunctionHost.Rehearsal.Host
