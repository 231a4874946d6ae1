-- SUMMARY: The program.
import FunctionHost.CommandLine.Run
import FunctionHost.Net.Isolated

/-! # The program

The program reads the variables that its settings and its function need, and then does what its
command line asks for. The host that it is built for has no network: it listens, and serves until
its input ends. -/

namespace FunctionHost.Program

/-- The variables that are read from the environment of the program. -/
def knownVariables : List String :=
  Environment.platform.map Prod.fst ++ Settings.variableNames
    ++ [CommandLine.LogFilter.variableName]

/-- The variables that are set. -/
def setVariables : IO (List (String × String)) :=
  knownVariables.filterMapM fun name => do
    return (← IO.getEnv name).map fun value => (name, value)

/-- Waits for the end of the input. -/
partial def waitForEnd (input : IO.FS.Stream) : IO Unit := do
  unless (← input.getLine).isEmpty do
    waitForEnd input

end FunctionHost.Program

open FunctionHost in
/-- The program. -/
def main (words : List String) : IO UInt32 := do
  let environment := Environment.ofPairs (← Program.setVariables)
  match CommandLine.run words (fun _ => false) environment Net.Isolated.listen with
  | .ends status output error =>
    IO.print output
    IO.eprint error
    return status.toUInt32
  | .serves serving error =>
    IO.eprint error
    IO.eprintln ("Listening on " ++ serving.address.render)
    Program.waitForEnd (← IO.getStdin)
    return 0
