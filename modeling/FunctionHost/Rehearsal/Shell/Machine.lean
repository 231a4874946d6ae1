-- SUMMARY: A host while scripts run on it: channels, signals, sessions, and how they change.
import FunctionHost.Rehearsal.Host.Tree
import FunctionHost.Rehearsal.Shell.Script
import FunctionHost.Rehearsal.Shell.Signal

/-! # Machines

A session is what a running shell knows. A machine is a session on a host, of which all sessions
share the files, the channels, the clock and the signals that were sent. A child is a session of
its own that starts as a copy and leaves nothing but what it did to the host. Everything is done one
after the other; what goes on in the background has its own time on the clock. -/

namespace FunctionHost.Rehearsal.Shell

/-! ## The host -/

/-- What a descriptor leads to: nothing, text to read, text that was written, or a file from a
    position on. -/
inductive Channel where
  | void
  | source (unread : List Char)
  | sink (reversed : List Char)
  | file (place : Host.Place) (position : Nat) (appends : Bool)
  deriving Repr, DecidableEq, Inhabited

/-- A signal that was sent to a process at a time. -/
structure Sent where
  time : Nat
  target : Nat
  signal : Nat
  deriving Repr, DecidableEq

/-- What all sessions share. The clock shows milliseconds. -/
structure World where
  tree : Host.Tree
  channels : Array Channel
  clock : Nat
  lastNumber : Nat
  sent : List Sent

namespace World

/-- A world with one more channel, and its number. -/
def withChannel (w : World) (channel : Channel) : World × Nat :=
  ({ w with channels := w.channels.push channel }, w.channels.size)

/-- What a file holds. -/
def content (w : World) (place : Host.Place) : List Char :=
  match w.tree.node? place with
  | some (.file content _) => content
  | _ => []

/-- What can still be read from a channel. -/
def unread (w : World) (channel : Nat) : List Char :=
  match w.channels[channel]? with
  | some (.source unread) => unread
  | some (.file place position _) => (w.content place).drop position
  | _ => []

/-- A world in which some characters have been read from a channel. -/
def afterReading (w : World) (channel count : Nat) : World :=
  match w.channels[channel]? with
  | some (.source unread) =>
    { w with channels := w.channels.setIfInBounds channel (.source (unread.drop count)) }
  | some (.file place position appends) =>
    { w with channels := w.channels.setIfInBounds channel (.file place (position + count) appends) }
  | _ => w

/-- A world in which a text has been written to a channel, if it takes text. -/
def write? (w : World) (channel : Nat) (text : List Char) : Option World :=
  match w.channels[channel]? with
  | some .void => some w
  | some (.sink reversed) =>
    some { w with
      channels := w.channels.setIfInBounds channel (.sink (text.reverse ++ reversed)) }
  | some (.file place position appends) =>
    match w.tree.node? place with
    | some (.file old executable) =>
      let start := if appends then old.length else position
      let gap := List.replicate (start - old.length) '\x00'
      let new := old.take start ++ gap ++ text ++ old.drop (start + text.length)
      some { w with
        tree := w.tree.put place (.file new executable)
        channels := w.channels.setIfInBounds channel
          (.file place (start + text.length) appends) }
    | _ => some w
  | _ => none

/-- The text that was written to a channel. -/
def written (w : World) (channel : Nat) : List Char :=
  match w.channels[channel]? with
  | some (.sink reversed) => reversed.reverse
  | _ => []

end World

/-! ## Sessions -/

/-- How a process ends: with a status, or by a signal. -/
inductive Ending where
  | status (code : Nat)
  | signal (number : Nat)
  deriving Repr, DecidableEq, Inhabited

/-- The status by which a shell knows how a process ended. -/
def Ending.code : Ending → Nat
  | .status code => code % 256
  | .signal number => 128 + number

/-- A variable. One that is only marked has no value. -/
structure Variable where
  value : Option String
  exported : Bool
  readonly : Bool
  deriving Repr, DecidableEq, Inhabited

/-- The array and the text in brackets in a name that has such. -/
def inBrackets? (name : String) : Option (String × String) :=
  let array := name.toList.takeWhile (· ≠ '[')
  match name.toList.drop array.length with
  | '[' :: rest =>
    if rest.getLast? = some ']' then some (String.ofList array, String.ofList rest.dropLast)
    else none
  | _ => none

/-- The array that all elements are asked of by a name. -/
def wholeArray? (name : String) : Option String :=
  (inBrackets? name).bind fun (array, index) =>
    if index = "@" || index = "*" then some array else none

/-- The array to which a variable belongs that is one of its elements. -/
def arrayOf (name : String) : String :=
  ((inBrackets? name).map Prod.fst).getD name

/-- The index in the name of an element of an array. -/
def indexIn? (array name : String) : Option Nat := do
  let (other, index) ← inBrackets? name
  if other = array then index.toNat? else none

/-- A process in the background, when it ends, and how. -/
structure Job where
  number : Nat
  ends : Nat
  ending : Ending
  deriving Repr, DecidableEq

/-- The number of the first process. -/
def firstNumber : Nat := 1000

/-- What a running shell knows. `number` is its own number as a process, `parent` that of the
    process that started it, and `identity` that of the shell that started the script. Actions for
    signals are in `traps`, and signals that wait for their action in `caught`. While an action
    runs, `saved` holds the status from before it. So many `files` with commands are being carried
    out. The variables that functions have made their own are in `locals`, with what they were
    before. Where the reader of options stands is in `optionAt`: at an argument, and at a letter of
    it. -/
structure Session where
  number : Nat
  parent : Nat
  identity : Nat
  dialect : Dialect
  name : String
  arguments : List String
  values : List (String × Variable)
  functions : List (String × Command)
  traps : List (Nat × String)
  caught : List Nat
  flags : List Char
  status : Nat
  substituted : Nat
  saved : Option Nat
  here : Host.Place
  descriptors : List (Nat × Nat)
  jobs : List Job
  lastJob : Option Nat
  loops : Nat
  files : Nat
  locals : List (List (String × Option Variable))
  optionAt : Nat × Nat
  deriving Inhabited

namespace Session

/-- A variable by name. -/
def entry? (s : Session) (name : String) : Option Variable :=
  s.values.lookup name

/-- The value of a variable, if it has one. -/
def value? (s : Session) (name : String) : Option String :=
  (s.entry? name).bind Variable.value

/-- A session with a variable changed. -/
def withVariable (s : Session) (name : String) (v : Option Variable) : Session :=
  let others := s.values.filter (·.1 ≠ name)
  { s with values := v.elim others fun v => (name, v) :: others }

/-- The elements of an array with their indices, in order. Those after the first one are variables
    with an index in their names. -/
def elements (s : Session) (name : String) : List (Nat × String) :=
  let found := s.values.filterMap fun (other, v) => do
    let text ← v.value
    if other = name then return (0, text)
    let index ← indexIn? name other
    return (index, text)
  found.mergeSort fun a b => a.1 ≤ b.1

/-- The variables that programs get. -/
def exported (s : Session) : List (String × String) :=
  s.values.filterMap fun (name, v) => if v.exported then v.value.map (name, ·) else none

/-- Whether an option is on. -/
def isOn (s : Session) (flag : Char) : Bool :=
  s.flags.contains flag

/-- A session with an option turned on or off. -/
def turn (s : Session) (flag : Char) (on : Bool) : Session :=
  let others := s.flags.filter (· ≠ flag)
  { s with flags := if on then flag :: others else others }

/-- The channel of a descriptor. -/
def channel? (s : Session) (descriptor : Nat) : Option Nat :=
  s.descriptors.lookup descriptor

/-- A session with a descriptor that leads to a channel, or nowhere. -/
def withDescriptor (s : Session) (descriptor : Nat) (channel : Option Nat) : Session :=
  let others := s.descriptors.filter (·.1 ≠ descriptor)
  { s with descriptors := channel.elim others fun c => (descriptor, c) :: others }

/-- A copy of a session for a child: actions for signals are gone, and so are jobs. -/
def forked (s : Session) (number : Nat) : Session :=
  { s with
    number
    parent := s.number
    traps := s.traps.filter fun (_, action) => action.isEmpty
    caught := []
    jobs := [] }

end Session

/-! ## Actions -/

/-- Why a command does not go on to the next one: the shell exits, ends after a failure, or meets a
    mistake; a loop is left or starts again; a function returns; the process has become something
    else that has ended; or the fuel is used up. -/
inductive Stop where
  | exits
  | ends
  | mistake
  | breaks (loops : Nat)
  | continues (loops : Nat)
  | returns
  | becomes (ending : Ending)
  | exhausted
  deriving Repr, DecidableEq, Inhabited

/-- A session on a host. -/
structure Machine where
  world : World
  session : Session

/-- What a session does, which may stop early. What it has done so far stays done. -/
abbrev Act (α : Type) := ExceptT Stop (StateM Machine) α

namespace Act

/-- The session. -/
def session : Act Session :=
  return (← get).session

/-- The world. -/
def world : Act World :=
  return (← get).world

/-- Changes the session. -/
def update (f : Session → Session) : Act Unit :=
  modify fun m => { m with session := f m.session }

/-- Changes the world. -/
def updateWorld (f : World → World) : Act Unit :=
  modify fun m => { m with world := f m.world }

/-- Does something, and tells whether it stopped. -/
def attempt {α : Type} (act : Act α) : Act (Except Stop α) :=
  ExceptT.mk do return .ok (← act.run)

/-- Goes on as an earlier attempt did. -/
def proceed {α : Type} : Except Stop α → Act α
  | .ok a => return a
  | .error stop => throw stop

/-- Sets the status. -/
def setStatus (status : Nat) : Act Unit :=
  update fun s => { s with status }

/-- Repeats a step as long as it asks for more, and a number of times at most. -/
def iterate (limit : Nat) (step : Act Bool) : Act Unit :=
  match limit with
  | 0 => throw .exhausted
  | limit + 1 => do if ← step then iterate limit step

/-! ### Texts -/

/-- Opens a new channel. -/
def openChannel (channel : Channel) : Act Nat := do
  let (w, number) := (← world).withChannel channel
  updateWorld fun _ => w
  return number

/-- Writes a text to a descriptor, and tells whether that worked. -/
def write (descriptor : Nat) (text : List Char) : Act Bool := do
  match (← session).channel? descriptor with
  | none => return text.isEmpty
  | some channel =>
    match (← world).write? channel text with
    | some w => updateWorld fun _ => w; return true
    | none => return text.isEmpty

/-- Complains on the second output, in one line with the name of the shell. -/
def complain (text : String) : Act Unit := do
  let _ ← write 2 (s!"{(← session).name}: 1: {text}\n").toList

/-- Complains, and stops with a status because of a mistake. The first status is that of the plain
    language, the second that of the extended one. -/
def mistake {α : Type} (plain extended : Nat) (text : String) : Act α := do
  complain text
  setStatus (if (← session).dialect = .plain then plain else extended)
  throw .mistake

/-- Complains about a parameter without a value, and ends the shell. In the extended language its
    status is 127 unless it is a child or ends at failures. -/
def withoutValue {α : Type} (text : String) : Act α := do
  let s ← session
  match s.dialect with
  | .plain => mistake 2 2 text
  | .extended =>
    complain text
    setStatus (if s.isOn 'e' || s.number ≠ s.identity then 1 else 127)
    throw .ends

/-- What can still be read from a descriptor. -/
def unread (descriptor : Nat) : Act (List Char) := do
  match (← session).channel? descriptor with
  | some channel => return (← world).unread channel
  | none => return []

/-- Reads some characters from a descriptor. -/
def advance (descriptor count : Nat) : Act Unit := do
  match (← session).channel? descriptor with
  | some channel => updateWorld fun w => w.afterReading channel count
  | none => return ()

/-! ### Variables -/

/-- Changes a variable, unless it must not be changed. -/
def setVariable (name : String) (f : Option Variable → Option Variable) : Act Unit := do
  let s ← session
  match s.entry? name with
  | some ⟨_, _, true⟩ => mistake 2 1 (name ++ ": is read only")
  | old => update fun s => s.withVariable name (f old)

/-- Gives a variable a value. -/
def assign (name value : String) : Act Unit := do
  let all := (← session).isOn 'a'
  setVariable name fun old => some ⟨some value, all || (old.map (·.exported)).getD false, false⟩

/-- Gives a variable a value, and gives it to programs. -/
def assignExported (name value : String) : Act Unit :=
  setVariable name fun _ => some ⟨some value, true, false⟩

/-! ### Signals and time -/

/-- A signal arrives: it is ignored, waits for its action, or ends the process. -/
def receive (signal : Nat) : Act Unit := do
  let s ← session
  if Signal.absolute.contains signal then
    unless Signal.stopping.contains signal do throw (.becomes (.signal signal))
  else
    match s.traps.lookup signal with
    | some action =>
      unless action.isEmpty do update fun s => { s with caught := s.caught ++ [signal] }
    | none =>
      unless Signal.harmless.contains signal || Signal.stopping.contains signal do
        throw (.becomes (.signal signal))

/-- The signals arrive that were sent to this process by now. -/
def receiveSent : Act Unit := do
  let number := (← session).number
  let w ← world
  let (mine, others) := w.sent.partition fun sent => sent.target = number && sent.time ≤ w.clock
  unless mine.isEmpty do
    updateWorld fun w => { w with sent := others }
    for sent in mine do receive sent.signal

/-- Time passes. -/
def pass (millis : Nat) : Act Unit :=
  updateWorld fun w => { w with clock := w.clock + millis }

/-- A number for a new process. -/
def newNumber : Act Nat := do
  updateWorld fun w => { w with lastNumber := w.lastNumber + 1 }
  return (← world).lastNumber

/-- Sends a signal to a process, and tells whether there is one. The number zero stands for this
    process, and the signal zero does nothing. -/
def sendSignal (signal target : Nat) : Act Bool := do
  let s ← session
  let w ← world
  if target = 0 || target = s.number then
    unless signal = 0 do receive signal
    return true
  else
    match s.jobs.find? fun job => job.number = target with
    | some job =>
      let deadly := signal ≠ 0 && !Signal.harmless.contains signal
        && !Signal.stopping.contains signal
      if w.clock < job.ends && deadly then
        update fun s => { s with
          jobs := s.jobs.map fun j =>
            if j.number = target then { j with ends := w.clock, ending := .signal signal } else j }
      return true
    | none =>
      if firstNumber ≤ target && target ≤ w.lastNumber then
        unless signal = 0 do
          updateWorld fun w => { w with sent := w.sent ++ [⟨w.clock, target, signal⟩] }
        return true
      else return false

/-! ### Children -/

/-- Does something in a copy of the session, and goes back to the session. -/
def inCopy {α : Type} (change : Session → Session) (act : Act α) : Act (Except Stop α) := do
  let before ← session
  update change
  let result ← attempt act
  update fun _ => before
  return result

end Act

end FunctionHost.Rehearsal.Shell
