-- SUMMARY: What plays the function in a rehearsal on a host without a network.
import FunctionHost.Bootstrap.Basic

/-! # Players

A player stands in for the bootstrap of a function. On an isolated host it cannot reach the
interface of the exchange, so one that wants to poll or post first fails to do so, and goes on
with what it does afterwards. -/

namespace FunctionHost.Rehearsal

/-- Who plays the function: nobody on this host, or a bootstrap that exits with a status, is ended
    by a signal, does not exist, exits with a status after it polled once, or exits after it posted
    why it cannot start. -/
inductive Player where
  | external
  | exits (status : Int)
  | killed (signal : Nat)
  | missing (path : String)
  | pollsOnce (status : Int)
  | postsStartError
  deriving Repr, DecidableEq

/-- A bootstrap that runs a shell script. -/
def script (text : String) : Bootstrap :=
  ⟨["sh", "-c", text], none⟩

/-- A bootstrap that exits with a status, of which a host keeps the remainder by 256. -/
def exiting (status : Int) : Bootstrap :=
  script ("exit " ++ toString (status % 256))

/-- The bootstrap of a player on an isolated host. -/
def Player.bootstrap : Player → Bootstrap
  | .external => .external
  | .exits status => exiting status
  | .killed signal => ⟨["bash", "-c", "kill -" ++ toString signal ++ " $$"], none⟩
  | .missing path => ⟨[path], none⟩
  | .pollsOnce status => exiting status
  | .postsStartError => exiting 0

end FunctionHost.Rehearsal
