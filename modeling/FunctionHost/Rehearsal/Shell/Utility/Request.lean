-- SUMMARY: What a utility is started with, and what it answers.
import FunctionHost.Rehearsal.Host.Tree
import FunctionHost.Rehearsal.Shell.Utility.Manner

/-! # Requests

A utility gets options and operands, an input, variables and the files of its host, and answers with
an output, a status, and the files as they are afterwards. What it complains about goes to a second
output, one line for each complaint. -/

namespace FunctionHost.Rehearsal.Shell

/-- What a utility is started with. -/
structure Request where
  name : String
  words : List String
  given : List Switch.Given
  operands : List String
  refusal : Nat
  input : List Char
  values : List (String × String)
  tree : Host.Tree
  here : Host.Place

/-- What a utility leads to. -/
structure Answer where
  output : List Char
  complaints : List String
  status : Nat
  tree : Host.Tree
  millis : Nat

namespace Request

/-- An answer that writes a text and has a status. -/
def answer (r : Request) (output : List Char) (status : Nat) : Answer :=
  ⟨output, [], status, r.tree, 0⟩

/-- An answer that complains. -/
def complain (r : Request) (status : Nat) (about : String) : Answer :=
  ⟨[], [r.name ++ ": " ++ about], status, r.tree, 0⟩

/-- An answer that complains about how the utility was used. -/
def refuse (r : Request) (about : String) : Answer :=
  r.complain r.refusal about

/-- An answer that writes lines. -/
def lines (r : Request) (all : List String) : Answer :=
  r.answer (all.flatMap fun line => line.toList ++ ['\n']) 0

/-- Whether an option was given that has a letter. -/
def has (r : Request) (letter : Char) : Bool :=
  Switch.has r.given letter

/-- Whether an option was given that has a name. -/
def hasNamed (r : Request) (name : String) : Bool :=
  Switch.hasNamed r.given name

/-- The values that were given for a letter, in order. -/
def valuesOf (r : Request) (letter : Char) : List String :=
  Switch.valuesOf r.given letter

/-- The last value that was given for a letter. -/
def value? (r : Request) (letter : Char) : Option String :=
  Switch.value? r.given letter

/-- The last value that was given for a name. -/
def valueNamed? (r : Request) (name : String) : Option String :=
  (r.given.filterMap fun (switch, value) => if switch.name = name then value else none).getLast?

/-- What a file holds to which a path leads. A dash is the input. -/
def content (r : Request) (path : String) : Except Host.Fault (List Char) := do
  if path = "-" then return r.input
  match ← r.tree.open? r.here path with
  | (_, .directory) => throw .isDirectory
  | (_, .file content _) => return content
  | _ => return []

/-- A complaint about a path. -/
def complaintAbout (r : Request) (path : String) (fault : Host.Fault) : String :=
  r.name ++ ": " ++ path ++ ": " ++ fault.name

/-- What several files hold, and complaints about those that cannot be read. Without any paths it is
    the input, which can be read only once. -/
def contents (r : Request) (paths : List String) : List (String × List Char) × List String :=
  if paths.isEmpty then ([("", r.input)], [])
  else
    let found := paths.zipIdx.map fun (path, i) =>
      (path, if path = "-" && (paths.take i).contains "-" then pure [] else r.content path)
    let read := found.filterMap fun (path, content) => content.toOption.map fun cs => (path, cs)
    let complaints := found.filterMap fun (path, content) =>
      match content with
      | .error fault => some (r.complaintAbout path fault)
      | .ok _ => none
    (read, complaints)

/-- An answer that writes a text, and fails if there are complaints. -/
def withComplaints (r : Request) (output : List Char) (complaints : List String) : Answer :=
  ⟨output, complaints, if complaints.isEmpty then 0 else r.refusal, r.tree, 0⟩

/-- The lines of a text, of which the last one may lack its line feed. -/
def linesOf (text : List Char) : List (List Char) :=
  let all := text.splitOn '\n'
  if all.getLast? = some [] then all.dropLast else all

/-- The text of lines. -/
def textOf (all : List (List Char)) : List Char :=
  all.flatMap fun line => line ++ ['\n']

/-- What becomes of the lines of the operands put together. -/
def throughLines (r : Request) (change : List (List Char) → List (List Char)) : Answer :=
  let (read, complaints) := r.contents r.operands
  let all := read.flatMap fun (_, text) => linesOf text
  r.withComplaints (textOf (change all)) complaints

/-- What becomes of every operand by itself, as a text. -/
def throughTexts (r : Request) (change : List Char → List Char) : Answer :=
  let (read, complaints) := r.contents r.operands
  r.withComplaints (read.flatMap fun (_, text) => change text) complaints

/-- An answer that writes something, and complains about those operands that lead nowhere. -/
def visiting (r : Request) (output : List Char) : Answer :=
  let complaints := r.operands.filterMap fun path =>
    match r.tree.find r.here path with
    | .error fault => some (r.complaintAbout path fault)
    | .ok _ => none
  r.withComplaints output complaints

/-- Changes the files for every path, and complains about those where that fails. -/
def changing (r : Request) (paths : List String)
    (change : Host.Tree → String → Except Host.Fault Host.Tree) : Answer :=
  let (tree, complaints) := paths.foldl (fun (tree, complaints) path =>
    match change tree path with
    | .ok tree => (tree, complaints)
    | .error fault => (tree, complaints ++ [r.complaintAbout path fault]))
    (r.tree, [])
  { r.withComplaints [] complaints with tree }

end Request

end FunctionHost.Rehearsal.Shell
