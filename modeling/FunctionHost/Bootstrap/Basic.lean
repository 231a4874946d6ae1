-- SUMMARY: The command that starts the function.

/-! # Bootstraps

The bootstrap of a function is a command line with an optional working directory. An empty
command means that somebody else starts the function, which then connects by itself. -/

namespace FunctionHost

/-- The command that starts a function. -/
structure Bootstrap where
  command : List String
  directory : Option String
  deriving Repr, DecidableEq, Inhabited

namespace Bootstrap

/-- The function is started by somebody else. -/
def external : Bootstrap :=
  ⟨[], none⟩

/-- Whether the function is started by somebody else. -/
def isExternal (b : Bootstrap) : Bool :=
  b.command.isEmpty

/-- Where a command is looked for when none is given, in order. -/
def standardPaths : List String :=
  ["/var/runtime/bootstrap", "/var/task/bootstrap", "/opt/bootstrap"]

/-- The first standard command that exists, or the very first when none does, so that the start
    fails with its name. -/
def discover (present : String → Bool) : Bootstrap :=
  let path := (standardPaths.find? present).getD "/var/runtime/bootstrap"
  ⟨[path], none⟩

end Bootstrap

end FunctionHost
