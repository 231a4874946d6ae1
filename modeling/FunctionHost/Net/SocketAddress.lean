-- SUMMARY: Socket addresses: an IP address and a port.
import FunctionHost.Net.Address

/-! # Socket addresses

A socket address is an IP address and a port. A version 6 address stands in brackets and may
carry the number of a scope. Ports and scopes may be written with leading zeros, and names are
no addresses. -/

namespace FunctionHost.Net

/-- An IP address and a port. -/
inductive SocketAddress where
  | v4 (ip : Ipv4) (port : UInt16)
  | v6 (ip : Ipv6) (port : UInt16) (scope : UInt32)
  deriving Repr, DecidableEq

namespace SocketAddress

/-- The loopback address of version 4 with a port. -/
def loopback (port : UInt16) : SocketAddress :=
  .v4 ⟨127, 0, 0, 1⟩ port

/-- The port of an address. -/
def port : SocketAddress → UInt16
  | .v4 _ port => port
  | .v6 _ port _ => port

/-- An address with another port. -/
def withPort (port : UInt16) : SocketAddress → SocketAddress
  | .v4 ip _ => .v4 ip port
  | .v6 ip _ scope => .v6 ip port scope

/-- The port after its colon, which ends the text. -/
def lastPort? (cs : List Char) : Option UInt16 := do
  match ← number? 10 none true UInt16.size (← afterChar? ':' cs) with
  | (n, []) => return UInt16.ofNat n
  | _ => none

/-- The scope after its percent sign, or zero when there is none. -/
def scope (cs : List Char) : UInt32 × List Char :=
  match afterChar? '%' cs with
  | some rest =>
    match number? 10 none true UInt32.size rest with
    | some (n, after) => (UInt32.ofNat n, after)
    | none => (0, cs)
  | none => (0, cs)

/-- A version 4 address with a port. -/
def v4? (cs : List Char) : Option SocketAddress := do
  let (ip, rest) ← ipv4? cs
  return .v4 ip (← lastPort? rest)

/-- A version 6 address in brackets with a port. -/
def v6? (cs : List Char) : Option SocketAddress := do
  let (ip, rest) ← ipv6? (← afterChar? '[' cs)
  let (scope, rest) := scope rest
  return .v6 ip (← lastPort? (← afterChar? ']' rest)) scope

/-- The address that a text stands for. -/
def parse? (text : String) : Option SocketAddress :=
  (v4? text.toList).or (v6? text.toList)

/-- The IP address as it stands before the colon of the port. -/
def host : SocketAddress → String
  | .v4 ip _ => ip.render
  | .v6 ip _ scope =>
    if scope = 0 then "[" ++ ip.render ++ "]"
    else "[" ++ ip.render ++ "%" ++ toString scope.toNat ++ "]"

/-- The text of an address. -/
def render (a : SocketAddress) : String :=
  a.host ++ ":" ++ toString a.port.toNat

end SocketAddress

end FunctionHost.Net
