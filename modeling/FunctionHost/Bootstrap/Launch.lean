-- SUMMARY: Launching a bootstrap on some host: what is refused, and how its process ends.
import FunctionHost.Bootstrap.Basic
import FunctionHost.Bootstrap.Exit
import FunctionHost.Bootstrap.Problem
import FunctionHost.Dictionary

/-! # Launching a bootstrap

A command with a slash in it is a path, and must lead somewhere from where the host started. No text
that is handed to a process may hold the character zero. Everything else is up to the host: whether
it starts the process, and how the process ends. -/

namespace FunctionHost.Bootstrap

/-- A host on which processes are started. It knows which paths lead anywhere, and it runs a command
    with its arguments in a directory, with exactly the given variables, or tells why it does not. -/
structure Host where
  leads (path : String) : Bool
  run (command : String) (arguments : List String) (directory : Option String)
    (values : Dictionary String) : Except String Exit

/-- A process that was launched: the name of its program, and how it ends. -/
structure Launched where
  name : String
  exit : Exit
  deriving Repr, DecidableEq

/-- The last name in a path, if it ends in one. -/
def lastName? (path : String) : Option String :=
  match ((path.splitOn "/").filter fun part => !part.isEmpty && part ≠ ".").getLast? with
  | some ".." => none
  | last => last

/-- Launches a bootstrap on a host with exactly the given variables, and runs it to its end. -/
def launchOn (b : Bootstrap) (host : Host) (values : Dictionary String) :
    Except LaunchProblem Launched :=
  match b.command with
  | [] => .error .emptyCommand
  | command :: arguments =>
    let texts := command :: arguments ++ b.directory.toList
      ++ values.entries.flatMap fun (name, value) => [name, value]
    if command.contains '/' && !host.leads command then .error (.notFound command)
    else if texts.any fun text => text.contains '\x00' then .error .zeroByte
    else
      match host.run command arguments b.directory values with
      | .error reason => .error (.refused reason)
      | .ok exit => .ok ⟨(lastName? command).getD "unknown", exit⟩

end FunctionHost.Bootstrap
