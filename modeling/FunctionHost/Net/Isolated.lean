-- SUMMARY: A host without a network: addresses can be listened on, and nothing ever connects to them.
import FunctionHost.Net.SocketAddress

/-! # Isolated hosts

On an isolated host every address can be listened on, unless a listener holds its port already,
and no connection can be made. It is the only kind of host that needs no sockets, and rehearsals
run on one. -/

namespace FunctionHost.Net.Isolated

/-- Why no connection can be made. -/
def unreachable : String := "network unreachable"

/-- Why an address that is in use cannot be listened on. -/
def inUse : String := "Address already in use (os error 98)"

/-- The address that is meant, which is one of version 4 if an address of version 6 stands for
    one. -/
def meant : SocketAddress → SocketAddress
  | .v6 ip port scope =>
    match ip.mapped? with
    | some v4 => .v4 v4 port
    | none => .v6 ip port scope
  | a => a

/-- Whether two addresses as they are meant have a host in common. An unspecified address stands
    for all those of its version, and one of version 6 for those of version 4 too. -/
def overlap : SocketAddress → SocketAddress → Bool
  | .v4 a _, .v4 b _ => a = b || a.isUnspecified || b.isUnspecified
  | .v6 a _ _, .v6 b _ _ => a = b || a.isUnspecified || b.isUnspecified
  | .v4 _ _, .v6 b _ _ => b.isUnspecified
  | .v6 a _ _, .v4 _ _ => a.isUnspecified

/-- Whether two listeners on given addresses would share a port. Port zero stands for any free
    one. -/
def clash (a b : SocketAddress) : Bool :=
  a.port = b.port && a.port ≠ 0 && overlap (meant a) (meant b)

/-- The address that a listener gets, given the addresses already listened on. -/
def listen (held : List SocketAddress) (a : SocketAddress) : Except String SocketAddress :=
  if held.any (clash a) then .error inUse else .ok a

end FunctionHost.Net.Isolated
