-- SUMMARY: How a process ended, read from its wait status and described.

/-! # The end of a process

A wait status is a word of 32 bits. Its low seven bits tell whether the process left by itself,
was ended by a signal, or has only been stopped. -/

namespace FunctionHost.Bootstrap

/-- How a process ended, or that it has not ended yet. -/
inductive Exit where
  | status (code : Nat)
  | signal (number : Nat) (dumped : Bool)
  | stopped (signal : Nat)
  | continued
  | unrecognised (word : UInt32)
  deriving Repr, DecidableEq

namespace Exit

/-- How a process ended, by its wait status. -/
def ofWord (word : UInt32) : Exit :=
  let low := (word &&& 0x7F).toNat
  let high := ((word >>> 8) &&& 0xFF).toNat
  if low = 0 then .status high
  else if low ≠ 0x7F then .signal low (word &&& 0x80 ≠ 0)
  else if word &&& 0xFF = 0x7F then .stopped high
  else if word = 0xFFFF then .continued
  else .unrecognised word

/-- The names of the signals from 1 on. -/
def signalNames : List String :=
  [ "SIGHUP", "SIGINT", "SIGQUIT", "SIGILL", "SIGTRAP", "SIGABRT", "SIGBUS", "SIGFPE", "SIGKILL",
    "SIGUSR1", "SIGSEGV", "SIGUSR2", "SIGPIPE", "SIGALRM", "SIGTERM", "SIGSTKFLT", "SIGCHLD",
    "SIGCONT", "SIGSTOP", "SIGTSTP", "SIGTTIN", "SIGTTOU", "SIGURG", "SIGXCPU", "SIGXFSZ",
    "SIGVTALRM", "SIGPROF", "SIGWINCH", "SIGIO", "SIGPWR", "SIGSYS" ]

/-- The name of a signal, if it has one. -/
def signalName? (number : Nat) : Option String :=
  if number = 0 then none else signalNames[number - 1]?

/-- The number of a signal, with its name in parentheses if it has one. -/
def describeSignal (number : Nat) : String :=
  match signalName? number with
  | some name => s!"{number} ({name})"
  | none => toString number

/-- The description of how a process ended. -/
def describe : Exit → String
  | .status code => s!"exit status {code}"
  | .signal number dumped =>
    "signal: " ++ describeSignal number ++ (if dumped then " (core dumped)" else "")
  | .stopped number => "stopped (not terminated) by signal: " ++ describeSignal number
  | .continued => "continued (WIFCONTINUED)"
  | .unrecognised word =>
    "unrecognised wait status: " ++ toString word.toInt32.toInt
      ++ " 0x" ++ String.ofList (Nat.toDigits 16 word.toNat)

/-- The description of a process whose end could not be awaited. -/
def describeLost (reason : String) : String :=
  "wait failed: " ++ reason

end Exit

end FunctionHost.Bootstrap
