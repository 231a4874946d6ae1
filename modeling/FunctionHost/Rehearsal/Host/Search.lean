-- SUMMARY: Which program a command names, by its path or by the directories that are searched.
import FunctionHost.Rehearsal.Host.Tree

/-! # Searching for programs

A command with a slash is a path. Any other command is looked for in some directories, one after the
other. What is there but is no program is passed over, and remembered as the reason when nothing
else is found. -/

namespace FunctionHost.Rehearsal.Host

/-- What can be executed: a program of the host, or a file with a script. -/
inductive Executable where
  | program (name : String)
  | script (content : List Char)
  deriving Repr, DecidableEq

namespace Tree

/-- What a path leads to, if it can be executed. -/
def executable (t : Tree) (here : Place) (path : String) : Except Fault Executable := do
  match ← t.open? here path with
  | (_, .program name) => return .program name
  | (_, .file content true) => return .script content
  | _ => throw .denied

/-- The directories that a list of them with colons in between names. -/
def directoriesIn (list : String) : List String :=
  list.splitOn ":"

/-- The path of a command in a directory. An empty directory is the one where the search starts. -/
def inDirectory (directory command : String) : String :=
  if directory.isEmpty then command else directory ++ "/" ++ command

/-- The first of some paths that can be executed, or why none can. -/
def firstExecutable (t : Tree) (here : Place) (denied : Bool) (last : Fault) :
    List String → Except Fault (String × Executable)
  | [] => .error (if denied then .denied else last)
  | path :: rest =>
    match t.executable here path with
    | .ok found => .ok (path, found)
    | .error .denied => t.firstExecutable here true .denied rest
    | .error fault =>
      if fault = .missing || fault = .notDirectory then t.firstExecutable here denied fault rest
      else .error fault

/-- The path of what a command names, and what is there. -/
def search (t : Tree) (here : Place) (directories : List String) (command : String) :
    Except Fault (String × Executable) :=
  if command.isEmpty then .error .missing
  else if command.contains '/' then (t.executable here command).map (command, ·)
  else if maxName < command.length then .error .nameTooLong
  else
    t.firstExecutable here false .missing
      (directories.map fun directory => inDirectory directory command)

end Tree

end FunctionHost.Rehearsal.Host
