-- SUMMARY: IP addresses: reading them, and their canonical text.
import FunctionHost.Text.Percent

/-! # IP addresses

Version 4 addresses are four decimal numbers below 256, and version 6 addresses eight groups of
sixteen bits in hexadecimal. In the text of a version 6 address the longest run of two or more
zero groups is left out, the first one if several are longest, and an address that stands for
one of version 4 shows it. -/

namespace FunctionHost.Net

/-- An IP address of version 4. -/
structure Ipv4 where
  a : UInt8
  b : UInt8
  c : UInt8
  d : UInt8
  deriving Repr, DecidableEq

/-- An IP address of version 6, as its groups of sixteen bits. -/
structure Ipv6 where
  groups : List UInt16
  length_eq : groups.length = 8
  deriving Repr, DecidableEq

/-- Whether an address stands for all those of version 4. -/
def Ipv4.isUnspecified (ip : Ipv4) : Bool :=
  ip = ⟨0, 0, 0, 0⟩

/-- Whether an address stands for all those of version 6. -/
def Ipv6.isUnspecified (ip : Ipv6) : Bool :=
  ip.groups.all (· = 0)

/-! ## Reading -/

/-- What follows a given character. -/
def afterChar? (c : Char) : List Char → Option (List Char)
  | x :: rest => if x = c then some rest else none
  | [] => none

/-- The value of a digit in base ten or sixteen. -/
def digitValue? (base : Nat) (c : Char) : Option Nat :=
  (Text.hexValue? c).filter (· < base)

/-- The digits in a base at the start of a text. -/
def digitsOf (base : Nat) : List Char → List Nat × List Char
  | [] => ([], [])
  | c :: rest =>
    match digitValue? base c with
    | some v => let (vs, after) := digitsOf base rest; (v :: vs, after)
    | none => ([], c :: rest)

/-- The number in a base at the start of a text. It has at least one digit and at most as many as
    allowed, is below a limit, and may be refused for a leading zero. -/
def number? (base : Nat) (maxDigits : Option Nat) (leadingZero : Bool) (limit : Nat)
    (cs : List Char) : Option (Nat × List Char) :=
  let (ds, after) := digitsOf base cs
  let value := ds.foldl (fun n d => n * base + d) 0
  let tooLong := maxDigits.any (· < ds.length)
  let zeroFirst := !leadingZero && 1 < ds.length && ds.head? = some 0
  if ds.isEmpty || tooLong || zeroFirst || limit ≤ value then none else some (value, after)

/-- One of the four numbers of a version 4 address. -/
def octet? (cs : List Char) : Option (UInt8 × List Char) :=
  (number? 10 (some 3) false 256 cs).map fun (n, after) => (UInt8.ofNat n, after)

/-- A version 4 address. -/
def ipv4? (cs : List Char) : Option (Ipv4 × List Char) := do
  let (a, cs) ← octet? cs
  let (b, cs) ← octet? (← afterChar? '.' cs)
  let (c, cs) ← octet? (← afterChar? '.' cs)
  let (d, cs) ← octet? (← afterChar? '.' cs)
  return (⟨a, b, c, d⟩, cs)

/-- A colon between groups; there is none before the first. -/
def separator? (first : Bool) (cs : List Char) : Option (List Char) :=
  if first then some cs else afterChar? ':' cs

/-- A group of sixteen bits. -/
def group? (first : Bool) (cs : List Char) : Option (UInt16 × List Char) := do
  let (n, after) ← number? 16 (some 4) true UInt16.size (← separator? first cs)
  return (UInt16.ofNat n, after)

/-- A version 4 address in the place of two groups. -/
def embedded? (first : Bool) (cs : List Char) : Option (List UInt16 × List Char) := do
  let (v4, after) ← ipv4? (← separator? first cs)
  let pair (high low : UInt8) : UInt16 := UInt16.ofNat (high.toNat * 256 + low.toNat)
  return ([pair v4.a v4.b, pair v4.c v4.d], after)

/-- As many groups as there are, up to a number of them. A version 4 address may stand for the last
    two, and the answer says whether one does. -/
def groups (first : Bool) : Nat → List Char → List UInt16 × Bool × List Char
  | 0, cs => ([], false, cs)
  | left + 1, cs =>
    match if 1 ≤ left then embedded? first cs else none with
    | some (pair, after) => (pair, true, after)
    | none =>
      match group? first cs with
      | some (g, after) =>
        let (gs, v4, rest) := groups false left after
        (g :: gs, v4, rest)
      | none => ([], false, cs)

/-- The address with the given groups, if there are eight. -/
def Ipv6.ofGroups? (gs : List UInt16) : Option Ipv6 :=
  if h : gs.length = 8 then some ⟨gs, h⟩ else none

/-- A version 6 address. Two colons stand for the groups that are left out, at least one. -/
def ipv6? (cs : List Char) : Option (Ipv6 × List Char) := do
  let (front, v4, rest) := groups true 8 cs
  if front.length = 8 then return (← Ipv6.ofGroups? front, rest)
  else if v4 then none
  else
    let rest ← afterChar? ':' (← afterChar? ':' rest)
    let (back, _, rest) := groups true (7 - front.length) rest
    let zeros := List.replicate (8 - front.length - back.length) 0
    return (← Ipv6.ofGroups? (front ++ zeros ++ back), rest)

/-! ## Writing -/

/-- The text of a version 4 address. -/
def Ipv4.render (ip : Ipv4) : String :=
  s!"{ip.a.toNat}.{ip.b.toNat}.{ip.c.toNat}.{ip.d.toNat}"

/-- The text of a group, without leading zeros. -/
def groupText (g : UInt16) : String :=
  String.ofList (Nat.toDigits 16 g.toNat)

/-- The number of zero groups at the start of a list. -/
def leadingZeros (gs : List UInt16) : Nat :=
  (gs.takeWhile (· = 0)).length

/-- The start and the length of the longest run of zero groups, the first of several; the best one
    among the groups already passed is given. -/
def longestZeros (index : Nat) (best : Nat × Nat) : List UInt16 → Nat × Nat
  | [] => best
  | g :: gs =>
    let length := leadingZeros (g :: gs)
    longestZeros (index + 1) (if best.2 < length then (index, length) else best) gs

/-- Groups with colons between them. -/
def joinGroups (gs : List UInt16) : String :=
  String.intercalate ":" (gs.map groupText)

/-- The version 4 address that a version 6 address stands for. -/
def Ipv6.mapped? (ip : Ipv6) : Option Ipv4 :=
  match ip.groups with
  | [0, 0, 0, 0, 0, 0xFFFF, g, h] =>
    let high (x : UInt16) : UInt8 := UInt8.ofNat (x.toNat / 256)
    let low (x : UInt16) : UInt8 := UInt8.ofNat (x.toNat % 256)
    some ⟨high g, low g, high h, low h⟩
  | _ => none

/-- The text of a version 6 address. -/
def Ipv6.render (ip : Ipv6) : String :=
  match ip.mapped? with
  | some v4 => "::ffff:" ++ v4.render
  | none =>
    let (start, length) := longestZeros 0 (0, 0) ip.groups
    if 1 < length then
      joinGroups (ip.groups.take start) ++ "::" ++ joinGroups (ip.groups.drop (start + length))
    else joinGroups ip.groups

end FunctionHost.Net
