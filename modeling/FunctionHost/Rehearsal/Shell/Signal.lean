-- SUMMARY: Signals by number and by name, and which of them end a process.

/-! # Signals

Signals have numbers up to 64, and names. Most of them end a process that does not handle them.
Number zero is no signal, and stands for the end of a script. -/

namespace FunctionHost.Rehearsal.Shell.Signal

/-- The names of the signals from zero on. -/
def names : List String :=
  [ "EXIT", "HUP", "INT", "QUIT", "ILL", "TRAP", "ABRT", "BUS", "FPE", "KILL", "USR1", "SEGV",
    "USR2", "PIPE", "ALRM", "TERM", "16", "CHLD", "CONT", "STOP", "TSTP", "TTIN", "TTOU",
    "URG", "XCPU", "XFSZ", "VTALRM", "PROF", "WINCH", "IO", "PWR", "SYS", "32", "33", "RTMIN" ]
  ++ (List.range 15).map (fun i => s!"RTMIN+{i + 1}")
  ++ (List.range 14).map (fun i => s!"RTMAX-{14 - i}")
  ++ ["RTMAX"]

/-- More names of signals, which the extended language knows. -/
def extendedNames : List (String × Nat) :=
  [("STKFLT", 16), ("CLD", 17), ("POLL", 29)]

/-- Events of the extended language for which there may be actions, in the places of signals. -/
def events : List (String × Nat) :=
  [("ERR", 65), ("DEBUG", 66), ("RETURN", 67)]

/-- One more than the largest number of a signal. -/
def limit : Nat := 65

/-- The number of a signal, given by its number or by its name from a number on, in any letter
    case. -/
def number? (least : Nat) (text : String) : Option Nat :=
  if !text.isEmpty && text.toList.all Char.isDigit then
    text.toNat?.filter (· < limit)
  else
    ((names.drop least).findIdx? fun name => name == text.toUpper).map (· + least)

/-- The signals that leave a process alone when it does not handle them. -/
def harmless : List Nat :=
  [0, 17, 18, 23, 28]

/-- The signals that stop a process when it does not handle them. -/
def stopping : List Nat :=
  [19, 20, 21, 22]

/-- The signals that no process can handle. -/
def absolute : List Nat :=
  [9, 19]

end FunctionHost.Rehearsal.Shell.Signal
