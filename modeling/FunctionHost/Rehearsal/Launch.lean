-- SUMMARY: Launching a bootstrap on the standard host.
import FunctionHost.Bootstrap.Launch
import FunctionHost.Rehearsal.Shell.Run

/-! # The standard host

The host of a rehearsal is made up of a file tree and a few programs, the shell among them. A
process goes to its working directory first, and then becomes the program that its command names
from there, searched for in the directories that its own variables tell. The host limits how long
its words and variables may be. -/

namespace FunctionHost

namespace Rehearsal

/-- Where commands without a slash are looked for when the variables do not tell. -/
def defaultSearch : String := "/bin:/usr/bin"

/-- The bytes of a text, each of them as a character. -/
def byteText (text : String) : String :=
  String.ofList (text.toUTF8.toList.map fun b => Char.ofNat b.toNat)

/-- The variables that a process finds in its environment, which holds texts in which the first `=`
    ends a name. Of variables with one name the last stands. -/
def received (pairs : List (String × String)) : List (String × String) :=
  let cut := pairs.map fun (name, value) =>
    let text := (name ++ "=" ++ value).toList
    (String.ofList (text.takeWhile (· ≠ '=')), String.ofList ((text.dropWhile (· ≠ '=')).drop 1))
  cut.foldl (fun kept (name, value) => kept.filter (fun p => p.1 ≠ name) ++ [(name, value)]) []

/-- The size that a word or a variable of a process stays below, in bytes. -/
def maxWord : Nat := 131072

/-- The size that all words and variables of a process stay below, in bytes, with a pointer to each
    of them. -/
def maxWords : Nat := 2097152

/-- Whether some texts are too much for a process. -/
def areTooMany (texts : List String) : Bool :=
  texts.any (fun text => maxWord ≤ text.length)
    || maxWords ≤ texts.foldl (fun size text => size + text.length + 9) 0

/-- How a process ended, by the ending of its program. -/
def exitOf : Shell.Ending → Bootstrap.Exit
  | .status code => .status (code % 256)
  | .signal number => .signal number false

/-- What a process becomes that is started in a directory with variables, and in which directory. -/
def prepare (tree : Host.Tree) (directory : Option String) (values : List (String × String))
    (command : String) (words : List String) :
    Except Host.Fault (Host.Place × String × Host.Executable) := do
  let here ← match directory with
    | none => pure Host.startingPlace
    | some path => tree.directory? Host.startingPlace path
  let directories := Host.Tree.directoriesIn ((values.lookup "PATH").getD defaultSearch)
  let (path, executable) ← tree.search here directories command
  if areTooMany (words ++ values.map fun (name, value) => name ++ "=" ++ value) then
    throw .tooManyWords
  return (here, path, executable)

/-- The host on which bootstraps are launched in a rehearsal. -/
def standardHost : Bootstrap.Host where
  leads path := Host.Tree.standard.leads Host.startingPlace (byteText path)
  run command arguments directory values :=
    let command := byteText command
    let arguments := arguments.map byteText
    let pairs := values.entries.map fun (name, value) => (byteText name, byteText value)
    let tree := Host.Tree.standard
    match prepare tree (directory.map byteText) pairs command (command :: arguments) with
    | .error fault => .error fault.message
    | .ok (here, path, executable) =>
      let machine : Shell.Machine := .fresh tree here (received pairs)
      let ending := Shell.execute machine executable path command arguments
      .ok (exitOf (ending.getD (.signal 11)))

end Rehearsal

/-- Launches a bootstrap on the standard host, and runs it to its end. -/
def Bootstrap.launch (b : Bootstrap) (values : Dictionary String) :
    Except Bootstrap.LaunchProblem Bootstrap.Launched :=
  b.launchOn Rehearsal.standardHost values

end FunctionHost
