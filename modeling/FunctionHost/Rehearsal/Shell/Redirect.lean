-- SUMMARY: Redirections: where the descriptors of a command lead.
import FunctionHost.Rehearsal.Shell.Expand

/-! # Redirections

Redirections are made one after the other before a command, and undone after it. Their targets are
expanded before the first of them is made. One that cannot be made keeps the command from being
carried out. -/

namespace FunctionHost.Rehearsal.Shell.Act

/-- A redirection whose target is known. -/
structure Rerouting where
  descriptor : Nat
  direction : Direction
  target : String

/-- The redirections of a command with their targets expanded. A descriptor to be used must be a
    number, or a dash to close one. -/
def reroutings (run : Runner) (redirections : List Redirection) : Act (List Rerouting) :=
  redirections.mapM fun ⟨descriptor, direction, word⟩ => do
    let target ← text run word
    let isNumber := !target.isEmpty && target.toList.all Char.isDigit
    if direction = .duplicates && !isNumber && target ≠ "-" then
      mistake 2 1 "Bad fd number"
    else return ⟨descriptor, direction, target⟩

/-- The channel to write to a path, made anew or at the end of what is there. -/
def channelFor (path : String) (force appends : Bool) : Act (Except Host.Fault Channel) := do
  let s ← session
  let w ← world
  match w.tree.forWriting s.here path with
  | .error fault => return .error fault
  | .ok (_, some .void) => return .ok .void
  | .ok (place, some (.file old executable)) =>
    if s.isOn 'C' && !force && !appends then return .error .present
    let content := if appends then old else []
    updateWorld fun w => { w with tree := w.tree.put place (.file content executable) }
    return .ok (.file place 0 appends)
  | .ok (place, none) =>
    updateWorld fun w => { w with tree := w.tree.put place (.file [] false) }
    return .ok (.file place 0 appends)
  | .ok (_, some _) => return .ok .void

/-- The channel to read from a path. -/
def channelFrom (path : String) : Act (Except Host.Fault Channel) := do
  match (← world).tree.open? (← session).here path with
  | .error fault => return .error fault
  | .ok (place, .file _ _) => return .ok (.file place 0 false)
  | .ok _ => return .ok .void

/-- Makes a redirection, or tells why it cannot be made. -/
def reroute (r : Rerouting) : Act (Option String) := do
  let use (channel : Except Host.Fault Channel) : Act (Option String) := do
    match channel with
    | .error fault => return some ("cannot open " ++ r.target ++ ": " ++ fault.name)
    | .ok channel =>
      let number ← openChannel channel
      update fun s => s.withDescriptor r.descriptor (some number)
      return none
  match r.direction with
  | .reads => use (← channelFrom r.target)
  | .both =>
    match ← channelFrom r.target with
    | .error .missing => use (← channelFor r.target true true)
    | found => use found
  | .writes force => use (← channelFor r.target force false)
  | .appends => use (← channelFor r.target true true)
  | .document => use (.ok (.source r.target.toList))
  | .duplicates =>
    if r.target = "-" then
      update fun s => s.withDescriptor r.descriptor none
      return none
    else
      match (← session).channel? (r.target.toNat?.getD 0) with
      | some channel =>
        update fun s => s.withDescriptor r.descriptor (some channel)
        return none
      | none => return some (r.target ++ ": Bad file descriptor")

/-- Makes redirections one after the other until one cannot be made. -/
def rerouteAll : List Rerouting → Act (Option String)
  | [] => return none
  | r :: rest => do
    match ← reroute r with
    | some problem => return some problem
    | none => rerouteAll rest

/-- Does something with redirections, and undoes them unless they shall stay. If one of them cannot
    be made, something else is done instead. -/
def redirected (run : Runner) (redirections : List Redirection) (stay : Bool) (otherwise : Act Unit)
    (act : Act Unit) : Act Unit := do
  let all ← reroutings run redirections
  let before := (← session).descriptors
  match ← rerouteAll all with
  | some problem =>
    update fun s => { s with descriptors := before }
    complain problem
    setStatus (if (← session).dialect = .plain then 2 else 1)
    otherwise
  | none =>
    let result ← attempt act
    unless stay do update fun s => { s with descriptors := before }
    proceed result

end FunctionHost.Rehearsal.Shell.Act
