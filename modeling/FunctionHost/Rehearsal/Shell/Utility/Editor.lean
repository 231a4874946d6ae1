-- SUMMARY: The utility that edits the lines of texts by a script.
import FunctionHost.Rehearsal.Shell.Regex
import FunctionHost.Rehearsal.Shell.Utility.Request

/-! # Editing lines

A script is a row of instructions, each of them for the lines that it chooses by number or by what
they match. All of them are carried out for every line in turn, and what has become of the line is
written at the end of its turn. Braces are jumps over the instructions in them. -/

namespace FunctionHost.Rehearsal.Shell.Editor

/-- How an instruction chooses a line. A regular expression that is left out is the last one. -/
inductive Address where
  | line (n : Nat)
  | every (first step : Nat)
  | last
  | matching (r : Option Regex) (anyCase : Bool)
  | after (n : Nat)
  deriving Repr, DecidableEq

/-- A part of what replaces a match: a character, or what a group matched. -/
inductive Piece where
  | char (c : Char)
  | group (n : Nat)
  deriving Repr, DecidableEq

/-- What an instruction does. -/
inductive Action where
  | block (size : Nat)
  | nothing
  | replace (r : Option Regex) (pieces : List Piece) (every : Bool) (from_ : Nat)
      (writes anyCase : Bool)
  | translate (pairs : List (Char × Char))
  | write
  | writeFirst
  | delete
  | deleteFirst
  | quit (status : Nat) (silent : Bool)
  | number
  | append (text : List Char)
  | insert (text : List Char)
  | change (text : List Char)
  | next
  | join
  | hold (adds : Bool)
  | recall (adds : Bool)
  | exchange
  | branch (onlyReplaced negated : Bool) (label : String)
  | label (name : String)
  deriving Repr, DecidableEq

/-- An instruction, with the lines that it is for. -/
structure Instruction where
  first : Option Address
  second : Option Address
  negated : Bool
  action : Action
  deriving Repr, DecidableEq

/-! ## Scripts -/

/-- A text up to a mark that has no backslash before it, and what follows the mark. A backslash
    before the mark goes, and any other one stays. -/
def upTo? (mark : Char) (inBrackets : Bool) (done : List Char) : List Char →
    Option (List Char × List Char)
  | [] => none
  | '\\' :: c :: rest =>
    if c = mark then upTo? mark inBrackets (c :: done) rest
    else upTo? mark inBrackets (c :: '\\' :: done) rest
  | c :: rest =>
    if c = mark && !inBrackets then some (done.reverse, rest)
    else upTo? mark (if c = '[' then true else if c = ']' then false else inBrackets)
      (c :: done) rest

/-- A regular expression up to a mark. An empty one is left out. -/
def regex? (extended : Bool) (mark : Char) (cs : List Char) :
    Option (Option Regex × List Char) := do
  let (text, rest) ← (upTo? mark false [] cs)
  if text.isEmpty then return (none, rest)
  let r ← Regex.parse? extended text
  return (some r, rest)

/-- The pieces of a replacement. -/
def pieces (fuel : Nat) (cs : List Char) : List Piece :=
  match fuel with
  | 0 => []
  | fuel + 1 =>
    match cs with
    | [] => []
    | '&' :: rest => .group 0 :: pieces fuel rest
    | '\\' :: c :: rest =>
      let piece : Piece :=
        if c.isDigit then .group (c.toNat - '0'.toNat)
        else if c = 'n' then .char '\n'
        else if c = 't' then .char '\t'
        else .char c
      piece :: pieces fuel rest
    | c :: rest => .char c :: pieces fuel rest

/-- The number at the start of a text, if there is one, and what follows it. -/
def number? (cs : List Char) : Option Nat × List Char :=
  let digits := cs.takeWhile Char.isDigit
  (if digits.isEmpty then none else some (Numeral.ofDigits 10 digits), cs.drop digits.length)

/-- A text without the blanks at its start. -/
def trimmed (cs : List Char) : List Char :=
  cs.dropWhile fun c => c = ' ' || c = '\t'

/-- The address at the start of a text, if there is one, and what follows it. -/
def address? (extended second : Bool) (cs : List Char) : Option (Option Address × List Char) :=
  match cs with
  | '$' :: rest => some (some .last, rest)
  | '/' :: rest => expression '/' rest
  | '\\' :: mark :: rest => expression mark rest
  | '+' :: rest =>
    match number? rest with
    | (some n, rest) => if second then some (some (.after n), rest) else none
    | (none, _) => none
  | _ =>
    match number? cs with
    | (some n, '~' :: rest) =>
      let (step, rest) := number? rest
      some (some (.every n (step.getD 0)), rest)
    | (some n, rest) => some (some (.line n), rest)
    | (none, _) => some (none, cs)
where
  /-- An address that a regular expression gives. -/
  expression (mark : Char) (cs : List Char) : Option (Option Address × List Char) := do
    let (r, rest) ← regex? extended mark cs
    match rest with
    | 'I' :: rest => return (some (.matching r true), rest)
    | _ => return (some (.matching r false), rest)

/-- The flags behind a replacement: for all matches, from which match on, whether it writes, and in
    any letter case. -/
def flags (every : Bool) (from_ : Nat) (writes anyCase : Bool) : List Char →
    Bool × Nat × Bool × Bool × List Char
  | 'g' :: rest => flags true from_ writes anyCase rest
  | 'p' :: rest => flags every from_ true anyCase rest
  | 'i' :: rest => flags every from_ writes true rest
  | 'I' :: rest => flags every from_ writes true rest
  | c :: rest =>
    if c.isDigit then flags every (from_ * 10 + (c.toNat - '0'.toNat)) writes anyCase rest
    else (every, from_, writes, anyCase, c :: rest)
  | [] => (every, from_, writes, anyCase, [])

/-- A text of lines for an instruction: all up to a line feed without a backslash before it. -/
def textLines (fuel : Nat) (cs : List Char) : List Char × List Char :=
  match fuel with
  | 0 => ([], cs)
  | fuel + 1 =>
    match cs with
    | [] => (['\n'], [])
    | '\n' :: rest => (['\n'], rest)
    | '\\' :: c :: rest =>
      let (text, rest) := textLines fuel rest
      (c :: text, rest)
    | c :: rest =>
      let (text, rest) := textLines fuel rest
      (c :: text, rest)

/-- The action at the start of a text, and what follows it. -/
def action? (extended : Bool) (cs : List Char) : Option (Action × List Char) :=
  let text (rest : List Char) (make : List Char → Action) : Option (Action × List Char) :=
    let start := match trimmed rest with
      | '\\' :: rest =>
        match trimmed rest with
        | '\n' :: rest => rest
        | rest => rest
      | rest => rest
    if start.isEmpty then none
    else
      let (text, rest) := textLines (start.length + 1) start
      some (make text, rest)
  let word (rest : List Char) : String × List Char :=
    let name := (trimmed rest).takeWhile fun c => c ≠ '\n' && c ≠ ';'
    (String.ofList name, (trimmed rest).drop name.length)
  match cs with
  | 's' :: mark :: rest => do
    let (r, rest) ← regex? extended mark rest
    let (replacement, rest) ← upTo? mark false [] rest
    let (every, from_, writes, anyCase, rest) := flags false 0 false false rest
    return (.replace r (pieces (replacement.length + 1) replacement) every (max from_ 1) writes
      anyCase, rest)
  | 'y' :: mark :: rest => do
    let (source, rest) ← upTo? mark false [] rest
    let (target, rest) ← upTo? mark false [] rest
    if source.length ≠ target.length then none
    return (.translate (source.zip target), rest)
  | 'p' :: rest => some (.write, rest)
  | 'P' :: rest => some (.writeFirst, rest)
  | 'd' :: rest => some (.delete, rest)
  | 'D' :: rest => some (.deleteFirst, rest)
  | 'q' :: rest =>
    let (status, rest) := number? (trimmed rest)
    some (.quit (status.getD 0) false, rest)
  | 'Q' :: rest =>
    let (status, rest) := number? (trimmed rest)
    some (.quit (status.getD 0) true, rest)
  | '=' :: rest => some (.number, rest)
  | 'a' :: rest => text rest .append
  | 'i' :: rest => text rest .insert
  | 'c' :: rest => text rest .change
  | 'n' :: rest => some (.next, rest)
  | 'N' :: rest => some (.join, rest)
  | 'h' :: rest => some (.hold false, rest)
  | 'H' :: rest => some (.hold true, rest)
  | 'g' :: rest => some (.recall false, rest)
  | 'G' :: rest => some (.recall true, rest)
  | 'x' :: rest => some (.exchange, rest)
  | 'b' :: rest => some (.branch false false (word rest).1, (word rest).2)
  | 't' :: rest => some (.branch true false (word rest).1, (word rest).2)
  | 'T' :: rest => some (.branch true true (word rest).1, (word rest).2)
  | ':' :: rest =>
    if (word rest).1.isEmpty then none else some (.label (word rest).1, (word rest).2)
  | _ => none

/-- The instructions of a script up to a closing brace or to the end, and what follows. -/
def instructions? (extended : Bool) (fuel depth : Nat) (cs : List Char) :
    Option (List Instruction × List Char) :=
  match fuel with
  | 0 => none
  | fuel + 1 =>
    let start := cs.dropWhile fun c => Numeral.isSpace c || c = ';'
    match start with
    | [] => if depth = 0 then some ([], []) else none
    | '#' :: rest => instructions? extended fuel depth (rest.dropWhile (· ≠ '\n'))
    | '\x7d' :: rest => if depth = 0 then none else some ([], rest)
    | _ => do
      let (first, rest) ← address? extended false start
      let (second, rest) ← match first, trimmed rest with
        | some _, ',' :: rest => address? extended true (trimmed rest)
        | _, rest => some (none, rest)
      let (negated, rest) := match trimmed rest with
        | '!' :: rest => (true, trimmed rest)
        | rest => (false, rest)
      match rest with
      | '\x7b' :: rest =>
        let (inner, rest) ← instructions? extended fuel (depth + 1) rest
        let (others, rest) ← instructions? extended fuel depth rest
        return (⟨first, second, negated, .block inner.length⟩ :: inner ++ others, rest)
      | _ =>
        let (action, rest) ← action? extended rest
        let takesLines := action matches .append _ | .insert _ | .change _
        match trimmed rest with
        | c :: _ =>
          if !takesLines && c ≠ ';' && c ≠ '\n' && c ≠ '\x7d' && c ≠ '#' then none
        | [] => pure ()
        let (others, rest) ← instructions? extended fuel depth rest
        return (⟨first, second, negated, action⟩ :: others, rest)

/-- The instructions of a script. -/
def script? (extended : Bool) (cs : List Char) : Option (Array Instruction) :=
  match instructions? extended (cs.length + 2) 0 cs with
  | some (all, []) => some all.toArray
  | _ => none

/-! ## Editing -/

/-- Where editing has come to. A range that has begun is known by its instruction, with the number
    of the line that ends it if a number does. -/
structure State where
  rest : List (List Char)
  line : Nat
  pattern : List Char
  held : List Char
  last : Option Regex
  ranges : List (Nat × Option Nat)
  replaced : Bool
  output : List (List Char)
  queued : List (List Char)
  status : Option Nat

namespace State

/-- More output. -/
def write (s : State) (cs : List Char) : State :=
  { s with output := (cs ++ ['\n']) :: s.output }

/-- What was kept back for the end of a turn is written. -/
def flush (s : State) : State :=
  { s with output := s.queued.reverse ++ s.output, queued := [] }

/-- The next line becomes the current one. -/
def advance? (s : State) : Option State :=
  match s.rest with
  | next :: rest => some { s with rest, line := s.line + 1, pattern := next }
  | [] => none

/-- Whether an address chooses the current line. -/
def chooses (s : State) : Address → Bool
  | .line n => s.line = n
  | .every first step =>
    if step = 0 then s.line = first else first ≤ s.line && (s.line - first) % step = 0
  | .last => s.rest.isEmpty
  | .matching r anyCase =>
    match r.or s.last with
    | some r => (r.find? anyCase s.pattern.toArray 0).isSome
    | none => false
  | .after _ => false

/-- The regular expression of an address becomes the last one. -/
def remember (s : State) : Address → State
  | .matching (some r) _ => { s with last := some r }
  | _ => s

/-- Whether an instruction is for the current line, and what becomes of its range. -/
def isFor (s : State) (place : Nat) (i : Instruction) : State × Bool :=
  match i.first, i.second with
  | none, _ => (s, true)
  | some first, none => (s.remember first, s.chooses first)
  | some first, some second =>
    let others := s.ranges.filter (·.1 ≠ place)
    match s.ranges.lookup place with
    | some ends =>
      let isOver : Bool := match ends with
        | some n => decide (n ≤ s.line)
        | none => s.chooses second
      let passed := ends.any (· < s.line)
      ({ s with ranges := if isOver then others else s.ranges }, !passed || s.chooses first)
    | none =>
      if s.chooses first then
        let ends : Option Nat := match second with
          | .line n => some n
          | .after n => some (s.line + n)
          | _ => none
        let goesOn := ends.all (s.line < ·) && (ends.isSome || !(second matches .last)
          || !s.rest.isEmpty)
        ({ s with ranges := if goesOn then (place, ends) :: others else others }, true)
      else (s, false)

/-- What pieces stand for after a match. -/
def fill (text : Array Char) (first : Nat) (spot : Regex.Spot) (pieces : List Piece) : List Char :=
  pieces.flatMap fun piece =>
    match piece with
    | .char c => [c]
    | .group 0 => (text.extract first spot.place).toList
    | .group n =>
      match spot.groups.lookup n with
      | some (a, b) => (text.extract a b).toList
      | none => []

/-- A text with matches replaced from one of them on, and whether there were any. An empty match
    does not count right behind another match. -/
def replaceIn (fuel : Nat) (r : Regex) (anyCase every : Bool) (skip : Nat) (pieces : List Piece)
    (text : Array Char) (place : Nat) (behind : Option Nat) : List Char × Bool :=
  let rest := (text.extract place text.size).toList
  match fuel with
  | 0 => (rest, false)
  | fuel + 1 =>
    match r.find? anyCase text place with
    | none => (rest, false)
    | some (first, spot) =>
      let isEmpty := spot.place = first
      let next := if isEmpty then spot.place + 1 else spot.place
      let between := (text.extract spot.place next).toList
      let before := (text.extract place first).toList
      let onward (skip : Nat) : List Char × Bool :=
        if next ≤ text.size then
          replaceIn fuel r anyCase every skip pieces text next
            (if isEmpty then none else some next)
        else ([], false)
      if isEmpty && behind = some first then
        let (after, done) := onward skip
        (before ++ between ++ after, done)
      else if 0 < skip then
        let (after, done) := onward (skip - 1)
        (before ++ (text.extract first next).toList ++ after, done)
      else
        let new := fill text first spot pieces
        let after := if every then between ++ (onward 0).1
          else (text.extract spot.place text.size).toList
        (before ++ new ++ after, true)

end State

/-- How a turn goes on after an instruction. -/
inductive Flow where
  | onward
  | jump (place : Nat)
  | endTurn
  | dropTurn
  | again
  | stop
  deriving Repr, DecidableEq

/-- Where a label is, or the end of the script. -/
def labelled (script : Array Instruction) (name : String) : Nat :=
  if name.isEmpty then script.size
  else (script.findIdx? fun i => i.action = .label name).getD script.size

/-- Carries out what an instruction does. -/
def perform (script : Array Instruction) (quiet : Bool) (place : Nat) (s : State) :
    Action → State × Flow
  | .block _ => (s, .onward)
  | .nothing => (s, .onward)
  | .label _ => (s, .onward)
  | .replace r pieces every from_ writes anyCase =>
    match r.or s.last with
    | none => ({ s with status := some 1 }, .stop)
    | some r =>
      let text := s.pattern.toArray
      let (pattern, done) :=
        State.replaceIn (text.size + 2) r anyCase every (from_ - 1) pieces text 0 none
      let s := { s with last := some r }
      if done then
        let s := { s with pattern, replaced := true }
        (if writes then s.write pattern else s, .onward)
      else (s, .onward)
  | .translate pairs =>
    ({ s with pattern := s.pattern.map fun c => (pairs.lookup c).getD c }, .onward)
  | .write => (s.write s.pattern, .onward)
  | .writeFirst => (s.write (s.pattern.takeWhile (· ≠ '\n')), .onward)
  | .delete => (s, .dropTurn)
  | .deleteFirst =>
    if s.pattern.contains '\n' then
      ({ s with pattern := (s.pattern.dropWhile (· ≠ '\n')).tail }, .again)
    else (s, .dropTurn)
  | .quit status silent =>
    let s := { s with status := some status }
    (if silent then s else (if quiet then s else s.write s.pattern).flush, .stop)
  | .number => (s.write (toString s.line).toList, .onward)
  | .append text => ({ s with queued := text :: s.queued }, .onward)
  | .insert text => ({ s with output := text :: s.output }, .onward)
  | .change text =>
    let isLast := !(s.ranges.any fun range => range.1 = place)
    (if isLast then { s with output := text :: s.output } else s, .dropTurn)
  | .next =>
    let s := (if quiet then s else s.write s.pattern).flush
    match s.advance? with
    | some s => (s, .onward)
    | none => (s, .stop)
  | .join =>
    match s.advance? with
    | some next => ({ next.flush with pattern := s.pattern ++ '\n' :: next.pattern }, .onward)
    | none => ((if quiet then s else s.write s.pattern).flush, .stop)
  | .hold adds =>
    ({ s with held := if adds then s.held ++ '\n' :: s.pattern else s.pattern }, .onward)
  | .recall adds =>
    ({ s with pattern := if adds then s.pattern ++ '\n' :: s.held else s.held }, .onward)
  | .exchange => ({ s with pattern := s.held, held := s.pattern }, .onward)
  | .branch onlyReplaced negated label =>
    if !onlyReplaced then (s, .jump (labelled script label))
    else
      let goes := s.replaced != negated
      ({ s with replaced := false }, if goes then .jump (labelled script label) else .onward)

/-- Carries out a script for one line after the other, from an instruction on. -/
def run (script : Array Instruction) (quiet : Bool) (fuel place : Nat) (s : State) : State :=
  match fuel with
  | 0 => s
  | fuel + 1 =>
    let finish (s : State) : State := (if quiet then s else s.write s.pattern).flush
    let turn (s : State) : State :=
      match s.advance? with
      | some s => run script quiet fuel 0 { s with replaced := false }
      | none => s
    match script[place]? with
    | none => turn (finish s)
    | some i =>
      let (s, chosen) := s.isFor place i
      if chosen = i.negated then
        match i.action with
        | .block size => run script quiet fuel (place + 1 + size) s
        | _ => run script quiet fuel (place + 1) s
      else
        match perform script quiet place s i.action with
        | (s, .onward) => run script quiet fuel (place + 1) s
        | (s, .jump next) => run script quiet fuel next s
        | (s, .endTurn) => turn (finish s)
        | (s, .dropTurn) => turn s.flush
        | (s, .again) => run script quiet fuel 0 s
        | (s, .stop) => s

/-- What a script writes for lines, and the status that it asks for. -/
def edit (script : Array Instruction) (quiet : Bool) (lines : List (List Char)) :
    List Char × Nat :=
  match lines with
  | [] => ([], 0)
  | first :: rest =>
    let s : State := ⟨rest, 1, first, [], none, [], false, [], [], none⟩
    let fuel := 1000 + 100 * (script.size + 1) * (lines.length + 1)
    let s := run script quiet fuel 0 s
    (s.output.reverse.flatten, s.status.getD 0)

end Editor

namespace Request

/-- Edits the lines of files or of the input by a script. -/
def sed (r : Request) : Answer :=
  let fromFiles := (r.valuesOf 'f').mapM fun path => (r.content path).toOption
  let named := !(r.valuesOf 'e').isEmpty || !(r.valuesOf 'f').isEmpty
  let (script?, paths) : Option (List Char) × List String :=
    if named then
      (fromFiles.map fun texts =>
        ['\n'].intercalate ((r.valuesOf 'e').map String.toList ++ texts), r.operands)
    else (r.operands.head?.map String.toList, r.operands.tail)
  match script? with
  | none => r.refuse "no script"
  | some text =>
    match Editor.script? (r.has 'E' || r.has 'r') text with
    | none => r.refuse "bad script"
    | some script =>
      let quiet := r.has 'n' || r.hasNamed "silent" || text.take 3 = ['#', 'n', '\n']
      let (read, complaints) := r.contents paths
      let status (asked : Nat) : Nat := if asked ≠ 0 then asked
        else if complaints.isEmpty then 0 else 2
      if r.has 'i' then
        let tree := read.foldl (fun (tree : Host.Tree) (path, text) =>
          match tree.open? r.here path with
          | .ok (place, .file _ executable) =>
            tree.put place (.file (Editor.edit script quiet (linesOf text)).1 executable)
          | _ => tree) r.tree
        { r.answer [] (if complaints.isEmpty then 0 else 4) with tree, complaints }
      else
        let text := read.flatMap Prod.snd
        let (output, asked) := Editor.edit script quiet (linesOf text)
        let output := if text.getLast? = some '\n' then output else output.dropLast
        { r.answer output (status asked) with complaints }

end Request

end FunctionHost.Rehearsal.Shell
