-- SUMMARY: Commands that change the shell itself: variables, options, jobs, signals, and the way on.
import FunctionHost.Rehearsal.Host.Search
import FunctionHost.Rehearsal.Shell.Expand
import FunctionHost.Rehearsal.Shell.Format
import FunctionHost.Rehearsal.Shell.Test

/-! # Built-in commands

Some commands are part of the shell. Each of them gets the words after its name and answers with a
status. A mistake in a special one ends a script of the plain language, and a mistake in any other
one is a failure. Those that carry out commands in turn are not here. -/

namespace FunctionHost.Rehearsal.Shell.Act

/-- Writes a text to the output, with the status of that. -/
def out (text : List Char) : Act Nat := do
  if ← write 1 text then return 0
  else
    complain "I/O error"
    return 1

/-- Writes lines to the output. -/
def outLines (lines : List String) : Act Nat :=
  out (lines.flatMap fun line => line.toList ++ ['\n'])

/-- The letters of options in front of other words, which must be among some, and the other
    words. -/
def lettersOf (allowed : List Char) : List String → Act (List Char × List String)
  | [] => return ([], [])
  | word :: rest => do
    if word = "--" then return ([], rest)
    else if word.length > 1 && word.front = '-' then
      let letters := word.toList.drop 1
      match letters.find? fun c => !allowed.contains c with
      | some c => mistake 2 2 ("Illegal option -" ++ String.ofList [c])
      | none =>
        let (more, others) ← lettersOf allowed rest
        return (letters ++ more, others)
    else return ([], word :: rest)

/-- The letters of options in front of other words, with the values of those that take one, and the
    other words. -/
def optionsOf (valued : List Char) : List String → List (Char × String) × List String
  | [] => ([], [])
  | word :: rest =>
    if word = "--" then ([], rest)
    else if word.length ≤ 1 || word.front ≠ '-' then ([], word :: rest)
    else
      let letters := word.toList.drop 1
      let bare := letters.takeWhile fun c => !valued.contains c
      let given := bare.map fun c => (c, "")
      match letters.drop bare.length with
      | [] =>
        let (more, others) := optionsOf valued rest
        (given ++ more, others)
      | [c] =>
        match rest with
        | [] => (given ++ [(c, "")], [])
        | value :: rest =>
          let (more, others) := optionsOf valued rest
          (given ++ (c, value) :: more, others)
      | c :: value =>
        let (more, others) := optionsOf valued rest
        (given ++ (c, String.ofList value) :: more, others)

/-- A number from zero on, which a word must be. -/
def countOf (word : String) : Act Nat := do
  match Numeral.count? word with
  | some n => return n
  | none => mistake 2 1 ("Illegal number: " ++ word)

/-! ## The way on -/

/-- Exits with a status, by default that of the last command, or in an action that of the command
    before it. -/
def exit (words : List String) : Act Nat := do
  let s ← session
  match words, s.dialect with
  | [], _ => setStatus (s.saved.getD s.status)
  | word :: _, .plain => setStatus (← countOf word)
  | word :: rest, .extended =>
    match Numeral.decimal? word with
    | some n =>
      unless rest.isEmpty do mistake 1 1 "exit: too many arguments"
      setStatus (n % 256).toNat
    | none =>
      complain (word ++ ": numeric argument required")
      setStatus 2
  throw .exits

/-- Returns from a function or a script, with a status. -/
def return_ (words : List String) : Act Nat := do
  let s ← session
  match words, s.dialect with
  | [], .plain => pure ()
  | word :: _, .plain => setStatus (← countOf word)
  | words, .extended =>
    if s.locals.isEmpty && s.files = 0 && words.length ≤ 1 then
      mistake 2 2 "can only return from a function or sourced script"
    match words with
    | [] => pure ()
    | [word] =>
      match Numeral.decimal? word with
      | some n => setStatus (n % 256).toNat
      | none =>
        complain (word ++ ": numeric argument required")
        setStatus 2
    | _ => mistake 1 1 "return: too many arguments"
  throw .returns

/-- Leaves some of the loops around, or goes on with the next round of one of them. In the extended
    language a number that is too small leaves all of them, and a word that is no number ends the
    script. -/
def leaveLoops (again : Bool) (words : List String) : Act Nat := do
  let s ← session
  if s.dialect = .extended then
    if s.loops = 0 then return 0
    match words with
    | [] => pure ()
    | word :: _ =>
      match Numeral.decimal? word with
      | some n =>
        if n ≤ 0 then
          complain (word ++ ": loop count out of range")
          setStatus 1
          throw (.breaks s.loops)
      | none =>
        complain (word ++ ": numeric argument required")
        setStatus 128
        throw .exits
  let n ← match words with
    | [] => pure 1
    | word :: _ => countOf word
  if n = 0 then mistake 2 1 "Illegal number: 0"
  match min n (← session).loops with
  | 0 => return 0
  | n =>
    setStatus 0
    throw (if again then .continues n else .breaks n)

/-- Drops some arguments. -/
def shift (words : List String) : Act Nat := do
  let n ← match words with
    | [] => pure 1
    | word :: _ => countOf word
  let s ← session
  if s.arguments.length < n then mistake 2 1 "can't shift that many"
  else
    update fun s => { s with arguments := s.arguments.drop n }
    return 0

/-! ## Variables -/

/-- A word cut at its first equals sign. -/
def cutAtEquals (word : String) : String × Option String :=
  let name := word.toList.takeWhile (· ≠ '=')
  match word.toList.drop name.length with
  | _ :: value => (String.ofList name, some (String.ofList value))
  | [] => (String.ofList name, none)

/-- The name in front of an equals sign, which must be one, and the value after it. -/
def assignmentOf (word : String) : Act (String × Option String) := do
  let (name, value) := cutAtEquals word
  if isName name then return (name, value)
  else mistake 2 1 (name ++ ": bad variable name")

/-- Marks variables, and gives them values. -/
def mark (change : Variable → Variable) (words : List String) : Act Nat := do
  let (_, words) ← lettersOf ['p', 'f', 'n'] words
  for word in words do
    let (name, value) ← assignmentOf word
    match value with
    | some value => assign name value
    | none => pure ()
    update fun s =>
      s.withVariable name (some (change ((s.entry? name).getD ⟨none, false, false⟩)))
  return 0

/-- Makes variables the own ones of the function that is running. In the extended language they have
    no value at first. -/
def makeLocal (words : List String) : Act Nat := do
  match (← session).locals with
  | [] => mistake 2 1 "not in a function"
  | frame :: outer =>
    let extended := (← session).dialect = .extended
    let words := if extended then (optionsOf [] words).2 else words
    let pairs ← words.mapM assignmentOf
    let s ← session
    let kept := pairs.flatMap fun (name, _) =>
      let elements := s.values.filter fun (other, _) => arrayOf other = name && other ≠ name
      (name, s.entry? name) :: elements.map fun (other, v) => (other, some v)
    let new := kept.filter fun (name, _) => (frame.lookup name).isNone
    update fun s => { s with locals := (new ++ frame) :: outer }
    if extended then
      for (name, _) in new do update fun s => s.withVariable name none
    for (name, value) in pairs do
      match value with
      | some value => assign name value
      | none => pure ()
    return 0

/-- Forgets variables or functions. In the extended language an array is forgotten with all of its
    elements, and without a variable of a name the function is. -/
def unset (words : List String) : Act Nat := do
  let extended := (← session).dialect = .extended
  let (letters, names) ← lettersOf (if extended then ['v', 'f', 'n'] else ['v', 'f']) words
  for name in names do
    if letters.contains 'f' then forgetFunction name
    else
      match inBrackets? name with
      | some (array, index) =>
        unless extended && isName array do mistake 2 1 (name ++ ": bad variable name")
        setVariable (← elementOf array index) fun _ => none
      | none =>
        unless isName name do mistake 2 1 (name ++ ": bad variable name")
        let s ← session
        let elements := (s.values.map Prod.fst).filter fun other => arrayOf other = name
        if extended && !letters.contains 'v' && elements.isEmpty then forgetFunction name
        else
          setVariable name fun _ => none
          for element in elements do setVariable element fun _ => none
  return 0
where
  /-- Forgets a function. -/
  forgetFunction (name : String) : Act Unit :=
    update fun s => { s with functions := s.functions.filter (·.1 ≠ name) }

/-- Declares variables, which are the own ones of the function that is running unless asked
    otherwise, or tells whether there are such variables or functions. -/
def declare (words : List String) : Act Nat := do
  let isOption (word : String) : Bool := word.length > 1 && (word.front = '-' || word.front = '+')
  let options := words.takeWhile isOption
  let letters := (options.filter fun word => word.front = '-').flatMap fun word =>
    word.toList.drop 1
  let names := words.drop options.length
  let s ← session
  if letters.any ['f', 'F'].contains then
    return if names.all fun name => (s.functions.lookup name).isSome then 0 else 1
  else if letters.contains 'p' then
    return if names.all fun name => (s.entry? name).isSome then 0 else 1
  else
    unless s.locals.isEmpty || letters.contains 'g' do let _ ← makeLocal names
    for word in names do
      let (name, value) ← assignmentOf word
      match value with
      | none => pure ()
      | some value =>
        if letters.contains 'i' then assign name (toString (← arithmetic value))
        else if letters.contains 'u' then assign name value.toUpper
        else if letters.contains 'l' then assign name value.toLower
        else assign name value
      let change (v : Variable) : Variable := { v with
        exported := v.exported || letters.contains 'x'
        readonly := v.readonly || letters.contains 'r' }
      if letters.any ['x', 'r'].contains then
        update fun s =>
          s.withVariable name (some (change ((s.entry? name).getD ⟨none, false, false⟩)))
    return 0

/-- Options by name, with their letters. -/
def optionNames : List (String × Char) :=
  [ ("errexit", 'e'), ("noglob", 'f'), ("ignoreeof", 'I'), ("interactive", 'i'), ("monitor", 'm'),
    ("noexec", 'n'), ("stdin", 's'), ("xtrace", 'x'), ("verbose", 'v'), ("vi", 'V'),
    ("emacs", 'E'), ("noclobber", 'C'), ("allexport", 'a'), ("notify", 'b'), ("nounset", 'u'),
    ("nolog", 'L'), ("debug", 'D') ]

/-- Options of the extended language only, by name and letter. -/
def extendedNames : List (String × Char) :=
  [ ("pipefail", 'P'), ("posix", 'X'), ("errtrace", 'T'), ("functrace", 'F'), ("physical", 'p'),
    ("braceexpand", 'B'), ("hashall", 'h'), ("keyword", 'k'), ("onecmd", 't'), ("history", 'H'),
    ("privileged", 'q') ]

/-- Turns options on or off by their letters. -/
def turnLetters (on : Bool) (letters : List Char) : Act Unit := do
  let extended := (← session).dialect = .extended
  for c in letters do
    if optionNames.any fun (_, letter) => letter = c && c ≠ 'L' && c ≠ 'D' then
      update fun s => s.turn c on
    else if extended && "hkptBEHPT".contains c then pure ()
    else mistake 2 2 ("Illegal option -" ++ String.ofList [c])

/-- Turns an option on or off by its name. -/
def turnNamed (on : Bool) (name : String) : Act Unit := do
  let known := optionNames ++ (if (← session).dialect = .extended then extendedNames else [])
  match known.lookup name with
  | some letter => update fun s => s.turn letter on
  | none => mistake 2 2 ("Illegal option -o " ++ name)

/-- Turns options on and off, and gives the words that are left, unless there are none of them. -/
def turnOptions : List String → Act (Option (List String))
  | [] => return none
  | word :: rest => do
    match word.toList with
    | '-' :: '-' :: [] => return some rest
    | ['-'] =>
      turnLetters false ['v', 'x']
      return if rest.isEmpty then none else some rest
    | ['-', 'o'] =>
      match rest with
      | name :: rest => turnNamed true name; turnOptions rest
      | [] => return none
    | ['+', 'o'] =>
      match rest with
      | name :: rest => turnNamed false name; turnOptions rest
      | [] => return none
    | '-' :: letters => turnWith true letters rest
    | '+' :: letters => turnWith false letters rest
    | _ => return some (word :: rest)
where
  /-- Letters, of which the last one may ask for a name. -/
  turnWith (on : Bool) (letters : List Char) (rest : List String) :
      Act (Option (List String)) := do
    match rest with
    | name :: rest =>
      if letters.getLast? = some 'o' then
        turnLetters on letters.dropLast
        turnNamed on name
        turnOptions rest
      else
        turnLetters on letters
        turnOptions (name :: rest)
    | [] =>
      turnLetters on letters
      return none

/-- Turns options on and off and sets the arguments, or tells all variables. -/
def set (words : List String) : Act Nat := do
  if words.isEmpty then
    let s ← session
    let all := s.values.filterMap fun (name, v) => v.value.map fun value =>
      name ++ "='" ++ value ++ "'"
    outLines (all.mergeSort (· ≤ ·))
  else
    match ← turnOptions words with
    | some arguments => update fun s => { s with arguments }
    | none => pure ()
    return 0

/-! ## Reading -/

/-- The characters of a line, each with a mark if a backslash was in front of it, how many were
    read, and whether the line has an end. -/
def lineOf (raw : Bool) (fuel count : Nat) (done : List Pattern.Letter) (cs : List Char) :
    List Pattern.Letter × Nat × Bool :=
  match fuel with
  | 0 => (done.reverse, count, false)
  | fuel + 1 =>
    match cs with
    | [] => (done.reverse, count, false)
    | '\n' :: _ => (done.reverse, count + 1, true)
    | '\\' :: rest =>
      if raw then lineOf raw fuel (count + 1) (('\\', false) :: done) rest
      else
        match rest with
        | '\n' :: rest => lineOf raw fuel (count + 2) done rest
        | c :: rest => lineOf raw fuel (count + 2) ((c, true) :: done) rest
        | [] => (done.reverse, count + 1, false)
    | c :: rest => lineOf raw fuel (count + 1) ((c, false) :: done) rest

/-- The texts for some names from a line: a field for each, and all that is left for the last. -/
def share (blanks others : List Char) : List String → List Pattern.Letter → List (String × String)
  | [], _ => []
  | [name], letters =>
    let isBlank (letter : Pattern.Letter) : Bool := !letter.2 && blanks.contains letter.1
    let kept := ((letters.dropWhile isBlank).reverse.dropWhile isBlank).reverse
    let inner := kept.dropLast
    let lone := (kept.getLast?.any fun (c, q) => !q && others.contains c)
      && !inner.any fun (c, q) => !q && (others.contains c || blanks.contains c)
    [(name, Pattern.plainText (if lone then inner else kept))]
  | name :: rest, letters =>
    let isBlank (letter : Pattern.Letter) : Bool := !letter.2 && blanks.contains letter.1
    let isOther (letter : Pattern.Letter) : Bool := !letter.2 && others.contains letter.1
    let letters := letters.dropWhile isBlank
    let field := letters.takeWhile fun letter => !isBlank letter && !isOther letter
    let after := (letters.drop field.length).dropWhile isBlank
    let after := match after with
      | letter :: more => if isOther letter then more else after
      | [] => []
    (name, Pattern.plainText field) :: share blanks others rest after

/-- Reads some characters, or those in front of a character, into a variable or into the elements of
    an array. -/
def readFreely (options : List (Char × String)) (names : List String) : Act Nat := do
  let descriptor := ((options.lookup 'u').bind String.toNat?).getD 0
  let text ← unread descriptor
  let limit := ((options.lookup 'n').or (options.lookup 'N')).bind String.toNat?
  let stop := ((options.lookup 'd').map fun text => text.toList.headD '\x00').getD '\n'
  let start := text.take (limit.getD text.length)
  let line := if (options.lookup 'N').isSome then start else start.takeWhile (· ≠ stop)
  let whole := if limit = some line.length then true else line.length < text.length
  advance descriptor (if limit = some line.length then line.length else line.length + 1)
  let raw := (options.lookup 'r').isSome
  let letters := (lineOf raw (line.length + 1) 0 [] (line.map fun c =>
    if c = '\n' then ' ' else c)).1
  match options.lookup 'a' with
  | some array =>
    let cells := letters.map fun (c, quoted) => Cell.letter c quoted (!quoted)
    let fields := (fieldsOf (← separators) cells).map fieldText
    for (field, i) in fields.zipIdx do assign (Arithmetic.elementName array i) field
  | none =>
    let (blanks, others) := (← separators).partition fun c => " \t\n".contains c
    for (name, value) in share blanks others names letters do
      unless isName name do mistake 2 1 (name ++ ": bad variable name")
      assign name value
  return if whole then 0 else 1

/-- Reads lines into the elements of an array. -/
def readLines (words : List String) : Act Nat := do
  let (options, names) := optionsOf "dnOsuCc".toList words
  let array := names.headD "MAPFILE"
  let text ← unread 0
  advance 0 text.length
  let ending := if (options.lookup 't').isSome then "" else "\n"
  let lines := ((if text.getLast? = some '\n' then text.dropLast else text).splitOn '\n')
  update fun s => { s with values := s.values.filter fun (other, _) => arrayOf other ≠ array }
  unless text.isEmpty do
    for (line, i) in lines.zipIdx do
      assign (Arithmetic.elementName array i) (String.ofList line ++ ending)
  return 0

/-- Reads a line into variables. -/
def read (words : List String) : Act Nat := do
  let extended := (← session).dialect = .extended
  let (options, others) := optionsOf "pandtuNi".toList words
  let unknown := options.find? fun (c, _) => !"pandtuNirse".contains c
  if extended && unknown.isSome then mistake 2 2 "read: invalid option"
  let freely := options.any fun (c, _) => "anduN".contains c
  if extended && freely then
    return ← readFreely options (if others.isEmpty then ["REPLY"] else others)
  let (letters, names) ← if extended then pure (options.map Prod.fst, others)
    else do
      let (letters, names) ← lettersOf ['r', 'p', 's', 'e'] words
      pure (letters, if letters.contains 'p' then names.tail else names)
  if names.isEmpty && !extended then mistake 2 2 "arg count"
  let names := if names.isEmpty then ["REPLY"] else names
  let text ← unread 0
  let (line, count, ended) := lineOf (letters.contains 'r') (text.length + 1) 0 [] text
  advance 0 count
  let (blanks, others) := (← separators).partition fun c => " \t\n".contains c
  for (name, value) in share blanks others names line do
    unless isName name do mistake 2 1 (name ++ ": bad variable name")
    assign name value
  return if ended then 0 else 1

/-- Takes the next option from the arguments into a variable. -/
def getopts (words : List String) : Act Nat := do
  match words with
  | allowed :: name :: rest =>
    let s ← session
    let all := if rest.isEmpty then s.arguments else rest
    let index := ((s.value? "OPTIND").bind String.toNat?).getD 1
    let offset := if s.optionAt.1 = index then s.optionAt.2 else 0
    let silent := allowed.front = ':'
    let finish (index : Nat) : Act Nat := do
      assign "OPTIND" (toString index)
      update fun s => { s with optionAt := (index, 0) }
      assign name "?"
      return 1
    match all[index - 1]? with
    | none => finish index
    | some word =>
      if word = "--" then finish (index + 1)
      else if word.length < 2 || word.front ≠ '-' then finish index
      else
        let letters := word.toList.drop (offset + 1)
        let c := letters.headD '?'
        let isLast := letters.length ≤ 1
        let next := if isLast then (index + 1, 0) else (index, offset + 1)
        let known := (allowed.toList.filter (· ≠ ':')).contains c
        let wants := (allowed.toList.dropWhile (· ≠ c))[1]? = some ':'
        let settle (at_ : Nat × Nat) (answer : String) (argument : Option String) : Act Nat := do
          assign "OPTIND" (toString at_.1)
          update fun s => { s with optionAt := at_ }
          assign name answer
          match argument with
          | some argument => assign "OPTARG" argument
          | none => setVariable "OPTARG" fun _ => none
          return 0
        let letter := String.ofList [c]
        if !known then
          unless silent do complain ("Illegal option -" ++ letter)
          settle next "?" (if silent then some letter else none)
        else if !wants then settle next letter none
        else if !isLast then
          settle (index + 1, 0) letter (some (String.ofList (letters.drop 1)))
        else
          match all[index]? with
          | some argument => settle (index + 2, 0) letter (some argument)
          | none =>
            unless silent do complain ("No arg for -" ++ letter ++ " option")
            if silent then settle (index + 1, 0) ":" (some letter)
            else settle (index + 1, 0) "?" none
  | _ => mistake 2 2 "Usage: getopts optstring var [arg...]"

/-! ## Directories -/

/-- A path with the names of another one after it, in which two dots take the last name away. -/
def joinPath (base path : String) : String :=
  let names := Host.Tree.pathNames (if Host.Tree.isAbsolute path then path else base ++ "/" ++ path)
  let kept := names.foldl (fun kept name =>
    if name.isEmpty || name = "." then kept
    else if name = ".." then kept.drop 1
    else name :: kept) []
  "/" ++ String.intercalate "/" kept.reverse

/-- The path of the directory that the session is in, as it was asked for. -/
def herePath : Act String := do
  let s ← session
  let plain := "/" ++ String.intercalate "/" s.here
  match s.value? "PWD" with
  | some path =>
    match (← world).tree.find [] path with
    | .ok place => return if Host.Tree.isAbsolute path && place = s.here then path else plain
    | .error _ => return plain
  | none => return plain

/-- Goes to another directory. -/
def cd (words : List String) : Act Nat := do
  let (letters, rest) ←
    lettersOf ['L', 'P'] (if words.head? = some "-" then "--" :: words else words)
  let s ← session
  let given := match rest with
    | [] => s.value? "HOME"
    | "-" :: _ => s.value? "OLDPWD"
    | path :: _ => some path
  if s.dialect = .extended then
    if given.isNone then mistake 1 1 "cd: HOME or OLDPWD not set"
    if rest.length > 1 then mistake 1 1 "cd: too many arguments"
  let target := given.getD ""
  let current ← herePath
  let path := if target.isEmpty then current else joinPath current target
  let tree := (← world).tree
  let found := do
    unless target.isEmpty do let _ ← tree.directory? s.here target
    tree.directory? [] path
  match found with
  | .ok place =>
    assignExported "OLDPWD" current
    let path := if letters.contains 'P' then "/" ++ String.intercalate "/" place else path
    assignExported "PWD" path
    update fun s => { s with here := place }
    if rest.head? = some "-" then outLines [path] else return 0
  | .error _ => mistake 2 1 ("can't cd to " ++ target)

/-! ## Signals and jobs -/

/-- The number of a signal that a word names, as the dialect has it. -/
def signalOf (least : Nat) (word : String) : Act (Option Nat) := do
  match (← session).dialect with
  | .plain => return Signal.number? least word
  | .extended =>
    let upper := word.toUpper
    let bare := if upper.startsWith "SIG" then String.ofList (upper.toList.drop 3) else upper
    return (Signal.extendedNames.lookup bare).or (Signal.number? 0 bare)

/-- Sets what is to be done when signals arrive, or at the end. -/
def trap (words : List String) : Act Nat := do
  let (_, words) ← lettersOf (if (← session).dialect = .plain then [] else ['l', 'p']) words
  match words with
  | [] =>
    let s ← session
    outLines (s.traps.reverse.map fun (signal, action) =>
      "trap -- '" ++ action ++ "' " ++ (Signal.names[signal]?).getD "")
  | first :: rest =>
    let resets := rest.isEmpty || (first.all Char.isDigit && (← signalOf 0 first).isSome)
    let (action, names) := if resets then (none, words)
      else (if first = "-" then none else some first, rest)
    for name in names do
      let events := if (← session).dialect = .extended then Signal.events else []
      match (events.lookup name.toUpper).or (← signalOf 0 name) with
      | none =>
        complain ("trap: " ++ name ++ ": bad trap")
        return 1
      | some signal =>
        update fun s => { s with
          traps := (action.map fun text => (signal, text)).toList
            ++ s.traps.filter (·.1 ≠ signal) }
    return 0

/-- The job that a word names, by its number as a process or with a percent sign by its place. -/
def jobOf (word : String) : Act (Option Job) := do
  let jobs := (← session).jobs
  match word.toList with
  | '%' :: rest =>
    match (String.ofList rest).toNat? with
    | some 0 => found 127 none
    | some n => found 127 jobs[n - 1]?
    | none => found 127 jobs.getLast?
  | _ =>
    match word.toNat? with
    | some n => return jobs.find? fun job => job.number = n
    | none => found 1 none
where
  /-- A job that must be there. -/
  found (status : Nat) (job : Option Job) : Act (Option Job) := do
    match job with
    | some job => return some job
    | none => mistake 2 status ("No such job: " ++ word)

/-- Time passes until a moment, unless a signal comes before it, whose number is told. -/
def waitUntil (moment : Nat) : Act (Option Nat) := do
  let s ← session
  let w ← world
  let mine := w.sent.filter fun sent => sent.target = s.number && sent.time ≤ max w.clock moment
  let first := mine.foldl (fun (best : Option Sent) sent =>
    match best with
    | some b => if sent.time < b.time then some sent else best
    | none => some sent) none
  match first with
  | some sent =>
    updateWorld fun w => { w with clock := max w.clock sent.time }
    receiveSent
    return if (s.traps.lookup sent.signal).any (!·.isEmpty) then some sent.signal else none
  | none =>
    updateWorld fun w => { w with clock := max w.clock moment }
    return none

/-- Waits for a job, and has its status. -/
def waitFor (job : Job) : Act Nat := do
  match ← waitUntil job.ends with
  | some signal => return 128 + signal
  | none =>
    updateWorld fun w => { w with clock := max w.clock job.ends }
    return job.ending.code

/-- Waits for jobs, or for all of them. -/
def wait (words : List String) : Act Nat := do
  let extended := (← session).dialect = .extended
  let (options, others) := optionsOf ['p'] words
  let words := if extended then others else words
  if extended && options.any (·.1 = 'n') then
    let jobs := (← session).jobs
    let first := jobs.foldl (fun (best : Option Job) job =>
      if best.all fun b => job.ends < b.ends then some job else best) none
    match first with
    | some job =>
      update fun s => { s with jobs := s.jobs.filter (·.number ≠ job.number) }
      waitFor job
    | none => return 127
  else if words.isEmpty then
    for job in (← session).jobs do
      match ← waitUntil job.ends with
      | some signal => return 128 + signal
      | none => pure ()
    return 0
  else
    let mut status := 0
    for word in words do
      match ← jobOf word with
      | some job => status ← waitFor job
      | none => status := 127
    return status

/-- Sends a signal to processes. The first one of the host takes no notice. -/
def signalAll (signal : Nat) (targets : List String) : Act Nat := do
  let extended := (← session).dialect = .extended
  let mut status := 0
  for target in targets do
    let found ← match target.toList with
      | '%' :: _ => do
        match ← attempt (jobOf target) with
        | .ok (some job) => sendSignal signal job.number
        | _ => mistake 2 1 ("No such job: " ++ target)
      | '-' :: group => do
        let _ ← countOf (String.ofList group)
        pure false
      | _ =>
        if extended && (Numeral.count? target).isNone then pure false
        else if target = "1" then pure true
        else sendSignal signal (← countOf target)
    unless found do
      complain "No such process"
      status := 1
  return status

/-- The names of signals, or that of one of them, which may be given as a status. In the extended
    language the number of a name may be asked for too. -/
def listSignals (words : List String) : Act Nat := do
  match words with
  | [] => outLines (Signal.names.drop 1)
  | word :: _ =>
    if (← session).dialect = .extended && !word.toList.all Char.isDigit then
      match ← signalOf 0 word with
      | some n => return ← outLines [toString n]
      | none => mistake 1 1 (word ++ ": invalid signal specification")
    let n ← countOf word
    let n := if n > 128 then n - 128 else n
    if 0 < n && n < Signal.limit then outLines [(Signal.names[n]?).getD ""]
    else mistake 2 1 ("invalid signal number or exit status: " ++ word)

/-- Sends a signal, by default the one that asks to end. -/
def kill (words : List String) : Act Nat := do
  let usage : Act Nat := mistake 2 2 "Usage: kill [-s sigspec | -signum | -sigspec] [pid | job]..."
  let send (signal : Nat) (targets : List String) : Act Nat :=
    if targets.isEmpty then usage else signalAll signal targets
  let invalid (word : String) : Act Nat :=
    mistake 2 1 ("invalid signal number or name: " ++ word)
  match words with
  | [] => usage
  | first :: rest =>
    match first.toList with
    | '-' :: letters =>
      let named ← signalOf 1 (String.ofList letters)
      let isOption := letters.head? = some 's' && (← session).dialect = .extended
      match if isOption then none else named with
      | some signal =>
        let ends := rest.head? = some "--" && (← session).dialect = .extended
        send signal (if ends then rest.tail else rest)
      | none =>
        let extended := (← session).dialect = .extended
        match letters, rest with
        | ['-'], _ => send 15 rest
        | ['l'], _ => listSignals rest
        | ['L'], _ => if extended then listSignals rest else mistake 2 1 "Illegal option -L"
        | ['n'], name :: targets =>
          unless extended do mistake 2 1 "Illegal option -n"
          match ← signalOf 1 name with
          | some signal => send signal targets
          | none => invalid name
        | ['s'], name :: targets =>
          match ← signalOf 1 name with
          | some signal => send signal (if targets.head? = some "--" then targets.tail else targets)
          | none => invalid name
        | 's' :: name, _ =>
          match ← signalOf 1 (String.ofList name) with
          | some signal => send signal rest
          | none => invalid (String.ofList name)
        | _, _ =>
          if (← session).dialect = .extended then invalid (String.ofList letters)
          else mistake 2 1 ("Illegal option -" ++ String.ofList (letters.take 1))
    | _ => send 15 words

/-! ## Names of commands -/

/-- The built-in commands in which a mistake ends a script of the plain language. -/
def specialNames : List String :=
  [".", ":", "break", "continue", "eval", "exec", "exit", "export", "local", "readonly", "return",
    "set", "shift", "times", "trap", "unset"]

/-- The other built-in commands. -/
def regularNames : List String :=
  ["[", "alias", "bg", "cd", "chdir", "command", "echo", "false", "fg", "getopts", "hash", "jobs",
    "kill", "printf", "pwd", "read", "test", "true", "type", "ulimit", "umask", "unalias", "wait"]

/-- The built-in commands of the extended language only. -/
def extendedBuiltins : List String :=
  ["bind", "builtin", "caller", "complete", "declare", "dirs", "disown", "enable", "help",
    "history", "let", "logout", "mapfile", "popd", "pushd", "readarray", "shopt", "source", "suspend",
    "typeset"]

/-- Whether a built-in command has a name. -/
def isBuiltin (name : String) : Act Bool := do
  let extended := (← session).dialect = .extended
  return (specialNames ++ regularNames).contains name && !(extended && name = "chdir")
    || (extended && extendedBuiltins.contains name)

/-- The words of the language. -/
def languageWords : List String :=
  ["!", "case", "do", "done", "elif", "else", "esac", "fi", "for", "if", "in", "then", "until",
    "while", "\x7b", "\x7d"]

/-- The words of the extended language only. -/
def extendedWords : List String :=
  ["[[", "]]", "coproc", "function", "select", "time"]

/-- The directories in which a shell looks for programs. -/
def searched : Act (List String) :=
  return (((← session).value? "PATH").map Host.Tree.directoriesIn).getD []

/-- What a name would run, described in short or in full. -/
def described? (full : Bool) (name : String) : Act (Option String) := do
  let s ← session
  let say (short long : String) : Option String := some (if full then name ++ long else short)
  let words := languageWords ++ (if s.dialect = .extended then extendedWords else [])
  if words.contains name then return say name " is a shell keyword"
  else if (s.functions.lookup name).isSome then return say name " is a shell function"
  else if specialNames.contains name && s.dialect = .plain then
    return say name " is a special shell builtin"
  else if ← isBuiltin name then return say name " is a shell builtin"
  else
    match (← world).tree.search s.here (← searched) name with
    | .ok (path, _) => return say path (" is " ++ path)
    | .error _ => return none

/-- Describes names. A name that would run nothing is a failure. -/
def describeAll (full : Bool) (missing : Nat) (names : List String) : Act Nat := do
  let mut status := 0
  for name in names do
    match ← described? full name with
    | some text => let _ ← outLines [text]
    | none =>
      if full then
        let text := name ++ ": not found"
        if (← session).dialect = .plain then let _ ← outLines [text] else complain text
      status := missing
  return status

/-! ## All together -/

/-- What kind of thing names would run, in a word for each. -/
def kinds (names : List String) : Act Nat := do
  let mut status := 0
  for name in names do
    let s ← session
    if (languageWords ++ extendedWords).contains name then let _ ← outLines ["keyword"]
    else if (s.functions.lookup name).isSome then let _ ← outLines ["function"]
    else if ← isBuiltin name then let _ ← outLines ["builtin"]
    else if (← described? false name).isSome then let _ ← outLines ["file"]
    else status := 1
  return status

/-- The answer to a test. -/
def test (words : List String) : Act Nat := do
  let s ← session
  let view : Test.View := ⟨(← world).tree, s.here⟩
  if s.dialect = .extended && words.head? = some "-v" && words.length = 2 then
    return if words.all fun name => name = "-v" || (s.value? name).isSome then 0 else 1
  let words := if s.dialect = .extended then words.map Test.operatorName else words
  match view.holds words with
  | .ok answer => return if answer then 0 else 1
  | .error .malformed => mistake 2 2 "unexpected operator"
  | .error (.notANumber text) => mistake 2 2 ("Illegal number: " ++ text)

/-- A built-in command that carries out no commands in turn, if there is one with a name. -/
def simpleBuiltin? (name : String) (words : List String) : Option (Act Nat) :=
  match name with
  | ":" => some (return 0)
  | "true" => some (return 0)
  | "false" => some (return 1)
  | "echo" => some do
    if (← session).dialect = .plain then out (Format.echo words)
    else out (Format.echoWithOptions words)
  | "printf" => some do
    let extended := (← session).dialect = .extended
    let (target, words) : Option String × List String := match words with
      | "-v" :: name :: rest => if extended then (some name, rest) else (none, words)
      | words => (none, words)
    match (if words.head? = some "--" then words.tail else words) with
    | [] => mistake 2 2 "usage: printf format [arg ...]"
    | format :: arguments =>
      let (text, status) := Format.print extended format arguments
      let status := if extended then min status 1 else status
      match target with
      | some name => assign name (String.ofList text); return status
      | none => return max (← out text) status
  | "test" => some (test words)
  | "[" => some do
    if words.getLast? = some "]" then test words.dropLast else mistake 2 2 "missing ]"
  | "exit" => some (exit words)
  | "return" => some (return_ words)
  | "break" => some (leaveLoops false words)
  | "continue" => some (leaveLoops true words)
  | "shift" => some (shift words)
  | "export" => some (mark (fun v => { v with exported := true }) words)
  | "readonly" => some (mark (fun v => { v with readonly := true }) words)
  | "local" => some (makeLocal words)
  | "declare" => some (declare words)
  | "typeset" => some (declare words)
  | "let" => some do
    if words.isEmpty then mistake 1 1 "let: expression expected"
    let values ← words.mapM arithmetic
    return if values.getLast? = some 0 then 1 else 0
  | "caller" => some (return if (← session).locals.isEmpty then 1 else 0)
  | "disown" => some (return if (← session).jobs.isEmpty then 1 else 0)
  | "logout" => some (mistake 1 1 "not a login shell")
  | "suspend" => some (mistake 1 1 "no job control")
  | "dirs" => some do outLines [← herePath]
  | "pushd" => some (cd words)
  | "popd" => some (mistake 1 1 "directory stack empty")
  | "mapfile" => some (readLines words)
  | "readarray" => some (readLines words)
  | "unset" => some (unset words)
  | "set" => some (set words)
  | "read" => some (read words)
  | "getopts" => some (getopts words)
  | "cd" => some (cd words)
  | "chdir" => some (cd words)
  | "pwd" => some do
    let (letters, _) ← lettersOf ['L', 'P'] words
    let here := (← session).here
    let asked ← herePath
    outLines [if letters.contains 'P' then "/" ++ String.intercalate "/" here else asked]
  | "trap" => some (trap words)
  | "wait" => some (wait words)
  | "kill" => some (kill words)
  | "jobs" => some (return 0)
  | "bg" => some (mistake 2 1 "No job control")
  | "fg" => some (mistake 2 1 "No job control")
  | "times" => some (outLines ["0m0.000000s 0m0.000000s", "0m0.000000s 0m0.000000s"])
  | "type" => some do
    if (← session).dialect = .extended && words.head? = some "-t" then
      return ← kinds words.tail
    let missing := if (← session).dialect = .plain then 127 else 1
    describeAll true missing words
  | "hash" => some do
    let (_, names) ← lettersOf ['r', 'v'] words
    let mut status := 0
    for name in names do
      if (← described? false name).isNone then
        complain (name ++ ": not found")
        status := 1
    return status
  | "alias" => some (return if words.all (·.contains '=') then 0 else 1)
  | "unalias" => some (return if words.head? = some "-a" then 0 else 1)
  | "umask" => some do
    match words with
    | [] => outLines ["0022"]
    | word :: _ =>
      let letters := word.toList
      if letters.all (Numeral.isDigitIn 8) || letters.any ['=', '+', '-'].contains then return 0
      else mistake 2 1 ("Illegal number: " ++ word)
  | "ulimit" => some (if words.length ≤ 1 then outLines ["unlimited"] else return 0)
  | _ => none

end FunctionHost.Rehearsal.Shell.Act
