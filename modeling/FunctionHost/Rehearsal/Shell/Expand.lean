-- SUMMARY: Expansion: from words to the texts of fields, with everything that happens on the way.
import FunctionHost.Rehearsal.Shell.Arithmetic
import FunctionHost.Rehearsal.Shell.Field
import FunctionHost.Rehearsal.Shell.Glob
import FunctionHost.Rehearsal.Shell.Machine

/-! # Expansion

Parameters, commands and expressions in a word are replaced by their values. Outside of quotes the
result is cut into fields, and fields with wildcards are replaced by the paths that they match. An
expansion may change variables, and commands in words are run by children. -/

namespace FunctionHost.Rehearsal.Shell

/-- What a shell is asked to do: to carry out a command or the lines of a script, or to become a
    program that is searched for in some directories. The outcome of what is `tested` does not end a
    shell that ends at failures. After a script that is `whole` the shell has nothing more to do. -/
inductive Work where
  | command (tested : Bool) (command : Command)
  | script (tested whole : Bool) (text : List Char)
  | program (directories : List String) (words : List String)

/-- Something that does the work of a shell. -/
abbrev Runner := Work → Act Unit

namespace Act

/-! ## Parameters -/

/-- The texts of a parameter: one, or those of all arguments. -/
inductive Value where
  | text (s : String)
  | all (texts : List String)

/-- The letters of the options that are on, in their order. -/
def flagText (s : Session) : String :=
  match s.dialect with
  | .plain => String.ofList s.flags
  | .extended => String.ofList ("abefhimnuvxBCcs".toList.filter s.isOn)

/-- The value of a parameter, if it is set. -/
def parameter? (name : String) : Act (Option Value) := do
  let s ← session
  let text (t : String) : Option Value := some (.text t)
  match name with
  | "?" => return text (toString s.status)
  | "#" => return text (toString s.arguments.length)
  | "$" => return text (toString s.identity)
  | "-" => return text (flagText s)
  | "!" => return s.lastJob.bind fun n => text (toString n)
  | "@" => return some (.all s.arguments)
  | "*" => return some (.all s.arguments)
  | "0" => return text s.name
  | _ =>
    match (if name.toList.all Char.isDigit then name.toNat? else none) with
    | some 0 => return text s.name
    | some n => return (s.arguments[n - 1]?).map .text
    | none =>
      match wholeArray? name with
      | some array =>
        let texts := (s.elements array).map Prod.snd
        return if texts.isEmpty then none else some (.all texts)
      | none => return (s.value? name).map .text

/-- The separators of fields. -/
def separators : Act (List Char) :=
  return (((← session).value? "IFS").getD " \t\n").toList

/-- What comes between arguments that make one text. -/
def between : Act (List Char) :=
  return (← separators).take 1

/-- The cells of a value. -/
def valueCells (quoted : Bool) (name : String) (value : Value) : Act (List Cell) := do
  match value with
  | .text t => return Cell.ofText quoted t
  | .all texts =>
    let each := texts.map fun t => (if quoted then [Cell.quotes] else []) ++ Cell.ofText quoted t
    if quoted && (name = "*" || name.endsWith "[*]") then
      let middle := (← between).map fun c => Cell.letter c true false
      return middle.intercalate (texts.map (Cell.ofText true))
    else return [Cell.boundary].intercalate each

/-- A single text for a value. -/
def valueText (value : Value) : Act String := do
  match value with
  | .text t => return t
  | .all texts => return String.intercalate (String.ofList (← between)) texts

/-- The text of cells that are not cut. -/
def uncut (cells : List Cell) : Act String := do
  return Cell.text (← between) cells

/-- The letters of cells that are not cut, as a pattern. -/
def patternOf (cells : List Cell) : Act (List Wildcard) := do
  return Pattern.ofLetters (Cell.joined (← between) cells)

/-- The texts of a value from one on, as many as a length tells. For a single text they are its
    characters. A negative number counts from the end. -/
def Value.slice (first : Int) (length : Option Int) : Value → Option Value
  | .text t => (cut t.toList).map fun cs => .text (String.ofList cs)
  | .all texts => (cut texts).map .all
where
  /-- A part of a list. -/
  cut {α : Type} (all : List α) : Option (List α) :=
    let start := if first < 0 then first + all.length else first
    if start < 0 || (all.length : Int) < start then some []
    else
      let rest := all.drop start.toNat
      match length with
      | none => some rest
      | some n =>
        if 0 ≤ n then some (rest.take n.toNat)
        else if (rest.length : Int) + n < 0 then none
        else some (rest.take ((rest.length : Int) + n).toNat)

/-- What becomes of every text of a value. -/
def Value.map (f : List Char → List Char) : Value → Value
  | .text t => .text (String.ofList (f t.toList))
  | .all texts => .all (texts.map fun t => String.ofList (f t.toList))

/-- The value of a parameter that must be set if a shell minds. -/
def needed (name : String) : Act Value := do
  match ← parameter? name with
  | some value => return value
  | none =>
    let s ← session
    if s.isOn 'u' then withoutValue (name ++ ": parameter not set")
    else return .text ""

/-! ## Commands and expressions in words -/

/-- Does something in a child, with a text as what it wrote, and how it ended. -/
def capture (change : Session → Session) (act : Act Ending) : Act (Ending × List Char) := do
  let channel ← openChannel (.sink [])
  let number ← newNumber
  let result ← inCopy (fun s => change ((s.forked number).withDescriptor 1 (some channel))) act
  let ending ← proceed result
  return (ending, (← world).written channel)

/-- How a shell or a part of it ends after it has done something, and after its last action if there
    is one. -/
def conclude (run : Runner) (act : Act Unit) : Act Ending := do
  let lastAction : Act Ending := do
    let s ← session
    match s.traps.lookup 0 with
    | some action =>
      update fun s => { s with traps := s.traps.filter (·.1 ≠ 0), saved := some s.status }
      match ← attempt (run (.script false false action.toList)) with
      | .error (.becomes ending) => return ending
      | .error .exhausted => throw .exhausted
      | .error .exits => return .status (← session).status
      | .error .ends => return .status (← session).status
      | .error .mistake => return .status (← session).status
      | _ => return .status s.status
    | none => return .status s.status
  match ← attempt act with
  | .error (.becomes ending) => return ending
  | .error .exhausted => throw .exhausted
  | _ => lastAction

/-- The path from which the output of a script can be read. -/
def streamOf (run : Runner) (script : Option Command) : Act String := do
  let text ← match script with
    | some command => do
      pure (← capture id (conclude run (run (.command false command)))).2
    | none => pure []
  let name := toString (← world).channels.size
  updateWorld fun w => { w with tree := w.tree.put ["dev", "fd", name] (.file text false) }
  return "/dev/fd/" ++ name

/-- The output of a command in a word, without the line feeds at its end. -/
def outputOf (run : Runner) (script : Option Command) : Act (List Char) := do
  match script with
  | none =>
    update fun s => { s with substituted := 0 }
    return []
  | some command =>
    let change (s : Session) : Session :=
      if s.dialect = .extended then s.turn 'e' false else s
    let (ending, text) ← capture change (conclude run (run (.command false command)))
    update fun s =>
      let status := if s.dialect = .extended then ending.code else s.status
      { s with substituted := ending.code, status }
    receiveSent
    return ((text.filter (· ≠ '\x00')).reverse.dropWhile (· = '\n')).reverse

/-- The value of an expression. -/
def arithmetic (text : String) : Act Int := do
  let s ← session
  let minds := s.dialect = .extended && s.isOn 'u'
  let texts (name : String) : Except Arithmetic.Problem String :=
    match s.value? name with
    | some text => .ok text
    | none => if minds then .error (.unset name) else .ok ""
  match Arithmetic.evaluate s.dialect texts text with
  | .ok (n, assigned) =>
    for (name, n) in assigned do assign name (toString n)
    return n
  | .error (.unset name) => withoutValue (name ++ ": unbound variable")
  | .error _ => mistake 2 1 ("arithmetic expression: " ++ text)

/-- The name by which an element of an array is found, with its index as a text. -/
def elementOf (name index : String) : Act String := do
  if index = "@" || index = "*" then return name ++ "[" ++ index ++ "]"
  let n ← arithmetic index
  if 0 ≤ n then return Arithmetic.elementName name n
  let last := ((← session).elements name).foldl (fun last (i, _) => max last (i + 1)) 0
  if (last : Int) + n < 0 then mistake 2 1 (name ++ ": bad array subscript")
  else return Arithmetic.elementName name (last + n)

/-! ## Words -/

mutual

/-- The cells of the parts of a word. With `splits`, what is not quoted may be cut. -/
def cellsOf (run : Runner) (splits : Bool) : List Part → Act (List Cell)
  | [] => return []
  | part :: rest => do
    let first ← cellsOfPart run splits part
    return first ++ (← cellsOf run splits rest)

/-- The cells of a part of a word. -/
def cellsOfPart (run : Runner) (splits : Bool) : Part → Act (List Cell)
  | .plain c => return [.letter c false splits]
  | .quoted c => return [.letter c true false]
  | .quotes => return [.quotes]
  | .parameter quoted name rule => cellsOfRule run quoted name rule
  | .output quoted script => do
    return Cell.ofText quoted (String.ofList (← outputOf run script))
  | .stream script => do return Cell.ofText true (← streamOf run script)
  | .arithmetic quoted expression => do
    let n ← arithmetic (← uncut (← cellsOf run false expression))
    return Cell.ofText quoted (toString n)

/-- The cells of a parameter with a rule. -/
def cellsOfRule (run : Runner) (quoted : Bool) (name : String) : Rule → Act (List Cell)
  | .value => do valueCells quoted name (← needed name)
  | .length => do
    let value ← if (wholeArray? name).isSome then do
        pure ((← parameter? name).getD (Value.all []))
      else needed name
    match value, (← session).dialect with
    | .all texts, .extended => return Cell.ofText quoted (toString texts.length)
    | value, _ => return Cell.ofText quoted (toString (← valueText value).length)
  | .fallback empty word => do
    match ← set? empty with
    | some value => valueCells quoted name value
    | none => cellsOf run (!quoted) word
  | .instead empty word => do
    if (← set? empty).isSome then cellsOf run (!quoted) word else return []
  | .assign empty word => do
    match ← set? empty with
    | some value => valueCells quoted name value
    | none =>
      let text ← uncut (← cellsOf run false word)
      unless isName name do mistake 2 1 (name ++ ": bad variable name")
      assign name text
      return Cell.ofText quoted text
  | .complain empty word => do
    match ← set? empty with
    | some value => valueCells quoted name value
    | none =>
      let text ← uncut (← cellsOf run false word)
      withoutValue (name ++ ": " ++ (if text.isEmpty then "parameter not set" else text))
  | .trimStart longest pattern => do
    let value ← needed name
    let elements ← patternOf (← cellsOf run false pattern)
    valueCells quoted name (value.map (Pattern.trimStart longest elements))
  | .trimEnd longest pattern => do
    let value ← needed name
    let elements ← patternOf (← cellsOf run false pattern)
    valueCells quoted name (value.map (Pattern.trimEnd longest elements))
  | .slice first length => do
    let value ← needed name
    let first ← arithmetic (← uncut (← cellsOf run false first))
    let length ← match length with
      | some length => do pure (some (← arithmetic (← uncut (← cellsOf run false length))))
      | none => pure none
    let shell := (← session).name
    let value := match value with
      | .all texts => if name = "@" || name = "*" then Value.all (shell :: texts) else value
      | value => value
    match value.slice first length with
    | some value => valueCells quoted name value
    | none => mistake 2 1 "substring expression < 0"
  | .replace extent pattern word => do
    let value ← needed name
    let elements ← patternOf (← cellsOf run false pattern)
    let text ← uncut (← cellsOf run false word)
    valueCells quoted name (value.map (Pattern.replace extent elements text.toList))
  | .letterCase upper every => do
    let change (c : Char) : Char := if upper then c.toUpper else c.toLower
    let value ← needed name
    valueCells quoted name <| value.map fun cs =>
      if every then cs.map change else (cs.take 1).map change ++ cs.drop 1
  | .element index rule => do
    let element ← elementOf name (← uncut (← cellsOf run false index))
    cellsOfRule run quoted element rule
  | .indirect rule => do
    match wholeArray? name with
    | some array =>
      let keys := ((← session).elements array).map fun (i, _) => toString i
      valueCells quoted name (.all keys)
    | none =>
      let target ← valueText (← needed name)
      unless isName target || target.toList.all Char.isDigit do
        mistake 2 1 (target ++ ": invalid variable name")
      cellsOfRule run quoted target rule
  | .malformed => do mistake 2 1 "Bad substitution"
where
  /-- The value of the parameter, if it counts as set. -/
  set? (empty : Bool) : Act (Option Value) := do
    match ← parameter? name with
    | some (.text t) => return if empty && t.isEmpty then none else some (.text t)
    | some (.all texts) =>
      let joined ← valueText (.all texts)
      let isNull := if quoted && name = "*" then joined.isEmpty
        else texts.length ≤ 1 && texts.all String.isEmpty
      let isNull := empty && isNull || texts.isEmpty && (← session).dialect = .extended
      return if isNull then none else some (.all texts)
    | none => return none

end

/-- The directory of a user, if it is known. -/
def homeOf? (user : List Char) : Act (Option String) := do
  let s ← session
  let known := if s.dialect = .extended then some "/root" else none
  if user.isEmpty then return (s.value? "HOME").or known
  else return if user = "root".toList then some "/root" else none

/-- A word in which a tilde at the start stands for a directory. A name may follow it, up to one of
    the characters in `ends`. -/
def withHome (ends : List Char) (word : List Part) : Act (List Part) := do
  match word with
  | .plain '~' :: rest =>
    let letters := rest.map fun part =>
      match part with
      | .plain c => some c
      | _ => none
    let user := letters.takeWhile fun c => c.any fun c => !ends.contains c
    let after := rest.drop user.length
    match after with
    | [] => replaced (user.filterMap id) after
    | .plain _ :: _ => replaced (user.filterMap id) after
    | _ => return word
  | _ => return word
where
  /-- The directory in front of the rest, if it is known. -/
  replaced (user : List Char) (after : List Part) : Act (List Part) := do
    match ← homeOf? user with
    | some path => return path.toList.map .quoted ++ after
    | none => return word

/-- A value in which every tilde after a colon may stand for a directory. -/
def withHomes (fuel : Nat) (word : List Part) : Act (List Part) := do
  match fuel with
  | 0 => return word
  | fuel + 1 =>
    let word ← withHome ['/', ':'] word
    let first := word.takeWhile fun part => !(part matches .plain ':')
    match word.drop first.length with
    | colon :: rest => return first ++ colon :: (← withHomes fuel rest)
    | [] => return word

/-- A word without quotes around all arguments or all elements of an array, if there are none. -/
def withoutVacant (s : Session) : List Part → List Part
  | .quotes :: .parameter true "@" .value :: rest =>
    if s.arguments.isEmpty then withoutVacant s rest
    else .quotes :: .parameter true "@" .value :: withoutVacant s rest
  | .quotes :: .parameter true name (.element [.plain '@'] .value) :: rest =>
    if (s.elements name).isEmpty then withoutVacant s rest
    else .quotes :: .parameter true name (.element [.plain '@'] .value) :: withoutVacant s rest
  | part :: rest => part :: withoutVacant s rest
  | [] => []

/-- The fields of a word. -/
def fields (run : Runner) (word : List Part) : Act (List String) := do
  let word := withoutVacant (← session) word
  let cells ← cellsOf run false (← withHome ['/'] word)
  let cut := fieldsOf (← separators) cells
  let s ← session
  let tree := (← world).tree
  let own := if s.dialect = .plain then [".", ".."] else []
  return cut.flatMap fun letters =>
    if s.isOn 'f' || !Pattern.isWild letters then [fieldText letters]
    else
      match Pattern.paths tree own s.here letters with
      | [] => [fieldText letters]
      | found => found

/-- The single text of a word. -/
def text (run : Runner) (word : List Part) : Act String := do
  uncut (← cellsOf run false (← withHome ['/'] word))

/-- The single text of a value that is assigned. -/
def assignedText (run : Runner) (word : List Part) : Act String := do
  uncut (← cellsOf run false (← withHomes (word.length + 1) word))

/-- Carries out an assignment, with something that gives a text to a variable. -/
def give (run : Runner) (each : String → String → Act Unit) : Assignment → Act Unit
  | .text name none value => do each name (← assignedText run value)
  | .text name (some index) value => do
    let element ← elementOf name (← uncut (← cellsOf run false index))
    each element (← assignedText run value)
  | .row name adds words => do
    let texts := (← words.mapM (fields run)).flatten
    unless adds do
      update fun s =>
        { s with values := s.values.filter fun (other, _) => arrayOf other ≠ name }
    let next := ((← session).elements name).foldl (fun next (i, _) => max next (i + 1)) 0
    if next = 0 && texts.isEmpty then setVariable name fun _ => none
    for (text, i) in texts.zipIdx next do
      each (Arithmetic.elementName name i) text

/-- The pattern of a word. -/
def pattern (run : Runner) (word : List Part) : Act (List Wildcard) := do
  patternOf (← cellsOf run false (← withHome ['/'] word))

end Act

end FunctionHost.Rehearsal.Shell
