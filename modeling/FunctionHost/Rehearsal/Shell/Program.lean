-- SUMMARY: Programs: what a process becomes, among them shells and programs that start others.
import FunctionHost.Rehearsal.Host.Standard
import FunctionHost.Rehearsal.Shell.Builtin
import FunctionHost.Rehearsal.Shell.Redirect
import FunctionHost.Rehearsal.Shell.Utility

/-! # Programs

A process may become a program, which gets words and the variables that are for programs. Most
programs are utilities. A shell reads a script from its words, from a file or from its input. A few
programs change the way in which another one is started. -/

namespace FunctionHost.Rehearsal.Shell.Act

/-- The session of a process that becomes a program. -/
def asProgram (name : String) (arguments : List String) (s : Session) : Session :=
  { s with
    identity := s.number
    name
    arguments
    values := s.values.filter fun (_, v) => v.exported && v.value.isSome
    functions := []
    traps := s.traps.filter fun (_, action) => action.isEmpty
    caught := []
    flags := []
    status := 0
    substituted := 0
    saved := none
    jobs := []
    lastJob := none
    loops := 0
    files := 0
    locals := []
    optionAt := (1, 0) }

/-- Does something in a child, and tells how that ended. -/
def inChild (run : Runner) (act : Act Unit) : Act Ending := do
  let number ← newNumber
  let ending ← proceed (← inCopy (·.forked number) (conclude run act))
  receiveSent
  return ending

/-- The process ends with a status. -/
def finish (status : Nat) : Act Unit :=
  throw (.becomes (.status status))

/-- The process complains and ends with a status. -/
def refuse (status : Nat) (text : String) : Act Unit := do
  complain text
  finish status

/-! ## Utilities -/

/-- The process becomes a utility. -/
def utility (name : String) (words : List String) : Act Unit := do
  let s ← session
  let input ← unread 0
  let answer := Request.carryOut name words input s.exported (← world).tree s.here
  if Request.drainsInput name words then
    if (s.channel? 0).isNone then refuse 1 (name ++ ": -: Bad file descriptor")
    advance 0 input.length
  updateWorld fun w => { w with tree := answer.tree, clock := w.clock + answer.millis }
  for complaint in answer.complaints do let _ ← write 2 (complaint ++ "\n").toList
  let worked ← write 1 answer.output
  finish (if worked then answer.status else max answer.status 1)

/-! ## Shells -/

/-- How a shell was asked to find its script. -/
inductive Origin where
  | words
  | file
  | input
  deriving Repr, DecidableEq

/-- The options of a shell, and the words after them. -/
def shellOptions (origin : Origin) : List String → Act (Origin × List String)
  | [] => return (origin, [])
  | word :: rest => do
    match word.toList with
    | ['-'] => return (origin, rest)
    | ['-', '-'] => return (origin, rest)
    | '-' :: '-' :: _ =>
      if (← session).dialect = .extended then shellOptions origin rest
      else mistake 2 2 ("Illegal option " ++ word)
    | '-' :: letters => shellLetters origin true letters rest
    | '+' :: letters => shellLetters origin false letters rest
    | _ => return (origin, word :: rest)
where
  /-- The letters of one word, of which the last one may ask for a name. -/
  shellLetters (origin : Origin) (on : Bool) (letters : List Char) (rest : List String) :
      Act (Origin × List String) := do
    let next := if letters.contains 'c' then .words
      else if letters.contains 's' then .input else origin
    turnLetters on (letters.filter fun c => c ≠ 'c' && c ≠ 's' && c ≠ 'o' && c ≠ 'l')
    if letters.contains 'o' then
      match rest with
      | name :: rest => turnNamed on name; shellOptions next rest
      | [] => return (next, [])
    else shellOptions next rest

/-- Where programs are looked for when the variables do not tell. -/
def standardSearch : String :=
  "/usr/local/sbin:/usr/local/bin:/usr/sbin:/usr/bin:/sbin:/bin"

/-- The variables that only the extended language has from the start. -/
def extendedValues : List (String × String) :=
  [("BASH", "/bin/bash"), ("BASHOPTS", "cmdhist:complete_fullquote:extquote:force_fignore"),
    ("BASH_SUBSHELL", "0"), ("BASH_VERSION", "5.2.15(1)-release"), ("BASH_VERSINFO", "5"),
    ("DIRSTACK", "~"), ("EUID", "0"), ("GROUPS", "0"), ("HOSTNAME", "host"),
    ("HOSTTYPE", "x86_64"), ("LINENO", "1"), ("MACHTYPE", "x86_64-pc-linux-gnu"), ("OPTERR", "1"),
    ("OSTYPE", "linux-gnu"), ("RANDOM", "4711"), ("SECONDS", "0"), ("SHELL", "/bin/bash"),
    ("SHELLOPTS", "braceexpand:hashall:interactive-comments"), ("TERM", "dumb"), ("UID", "0")]

/-- The variables with which a shell starts. -/
def setUp (dialect : Dialect) : Act Unit := do
  update fun s => { s with dialect, values := s.values.filter fun (name, _) => isName name }
  let s ← session
  let path ← herePath
  let plain (name value : String) (s : Session) : Session :=
    s.withVariable name (some ⟨some value, (s.entry? name).any (·.exported), false⟩)
  let given (name value : String) (s : Session) : Session :=
    if (s.value? name).isSome then s else plain name value s
  let s := plain "IFS" " \t\n" s
  let s := plain "OPTIND" "1" s
  let s := plain "PPID" (toString s.parent) s
  let s := given "PATH" standardSearch s
  let s := given "PS4" "+ " s
  let s := s.withVariable "PWD" (some ⟨some path, true, false⟩)
  match dialect with
  | .plain => update fun _ => given "PS2" "> " (given "PS1" "# " s)
  | .extended =>
    let level := ((s.value? "SHLVL").bind String.toNat?).getD 0 + 1
    let s := s.withVariable "SHLVL" (some ⟨some (toString level), true, false⟩)
    let s := s.withVariable "_" (some ⟨some s.name, true, false⟩)
    let s := ["PS1", "PS2"].foldl (fun s name => s.withVariable name none) s
    let s := extendedValues.foldl (fun s (name, value) => given name value s) s
    let s := given "BASHPID" (toString s.number) s
    update fun _ => { s with flags := ['h', 'B'] }

/-- The content of the file with a script. -/
def scriptIn (path : String) : Act (List Char) := do
  match (← world).tree.open? (← session).here path with
  | .ok (_, .file content _) => return content
  | .ok (_, .directory) =>
    if (← session).dialect = .plain then return [] else mistake 2 126 (path ++ ": Is a directory")
  | .ok _ => return []
  | .error fault => mistake 2 127 ("cannot open " ++ path ++ ": " ++ fault.name)

/-- The process becomes a shell. -/
def shell (run : Runner) (dialect : Dialect) (words : List String) : Act Unit := do
  setUp dialect
  let ending ← conclude run do
    let (origin, rest) ← shellOptions .file words
    match origin, rest with
    | .words, [] => mistake 2 2 "-c requires an argument"
    | .words, text :: rest =>
      update fun s => { s with name := rest.headD s.name, arguments := rest.tail }
      if dialect = .extended then update (·.turn 'c' true)
      run (.script false true text.toList)
    | .file, path :: arguments =>
      let content ← scriptIn path
      update fun s => { s with name := path, arguments }
      run (.script false false content)
    | _, arguments =>
      update fun s => { s with arguments }
      let content ← unread 0
      advance 0 content.length
      run (.script false false content)
  throw (.becomes ending)

/-- The words in the first line of a script that names its own program. -/
def interpreter? (content : List Char) : Option (List String) :=
  match content with
  | '#' :: '!' :: rest =>
    let isBlank (c : Char) : Bool := c = ' ' || c = '\t'
    let line := (rest.takeWhile (· ≠ '\n')).dropWhile isBlank
    let program := line.takeWhile (!isBlank ·)
    let argument := ((line.drop program.length).dropWhile isBlank).reverse.dropWhile isBlank
    let words := String.ofList program
      :: (if argument.isEmpty then [] else [String.ofList argument.reverse])
    if program.isEmpty then none else some words
  | _ => none

/-! ## Programs that start others -/

/-- The directories in which a program that is no shell looks for another one. -/
def directoriesOutside : Act (List String) :=
  return Host.Tree.directoriesIn (((← session).value? "PATH").getD "/bin:/usr/bin")

/-- The options and operands of a program that starts others. If it is used badly or asked for help,
    the process ends. -/
def separated (name : String) (words : List String) :
    Act (List Switch.Given × List String) := do
  match Manner.ofName? name with
  | none => return ([], words)
  | some manner =>
    match manner.separate? words with
    | .error about =>
      refuse manner.refusal (name ++ ": " ++ about)
      return ([], [])
    | .ok (given, operands) =>
      if Switch.hasNamed given "help" || Switch.hasNamed given "version" then finish 0
      return (given, operands)

/-- The process becomes another program, which is looked for as no shell does it. -/
def launch (run : Runner) (words : List String) : Act Unit := do
  run (.program (← directoriesOutside) words)

/-- The words in a text, with blanks between them, if all of its quotes are closed. A backslash
    quotes the next character. -/
def quotedWords? (quote : Option Char) (word : Option (List Char)) (done : List String) :
    List Char → Option (List String)
  | [] =>
    if quote.isSome then none
    else some ((word.map fun cs => String.ofList cs.reverse).toList ++ done).reverse
  | c :: rest =>
    let more := some (c :: word.getD [])
    match quote with
    | some q =>
      if q = '\\' then quotedWords? none more done rest
      else if c = q then quotedWords? none (some (word.getD [])) done rest
      else quotedWords? quote more done rest
    | none =>
      if c = '\\' then quotedWords? (some c) word done rest
      else if c = '\x22' || c = '\x27' then quotedWords? (some c) (some (word.getD [])) done rest
      else if Numeral.isSpace c then
        quotedWords? none none ((word.map fun cs => String.ofList cs.reverse).toList ++ done) rest
      else quotedWords? none more done rest

/-- The process changes its variables, and becomes another program or tells them. -/
def withEnvironment (run : Runner) (fuel : Nat) (words : List String) : Act Unit := do
  match fuel with
  | 0 => throw .exhausted
  | fuel + 1 =>
    let (given, operands) ← separated "env" words
    let bare := operands.head? = some "-"
    let operands := if bare then operands.tail else operands
    if bare || Switch.has given 'i' then update fun s => { s with values := [] }
    for name in Switch.valuesOf given 'u' do
      update fun s => s.withVariable name none
    for path in Switch.valuesOf given 'C' do
      match (← world).tree.directory? (← session).here path with
      | .ok here => update fun s => { s with here }
      | .error fault => refuse 125 ("cannot change directory: " ++ fault.name)
    match Switch.value? given 'S' with
    | some text =>
      match quotedWords? none none [] text.toList with
      | some more => withEnvironment run fuel (more ++ operands)
      | none => refuse 125 "no terminating quote"
    | none => assigning (Switch.has given '0') operands
where
  /-- A session with a variable in the place of one with that name, or behind all others. -/
  give (name : String) (v : Variable) (s : Session) : Session :=
    if (s.entry? name).isSome then
      { s with values := s.values.map fun (other, old) => (other, if other = name then v else old) }
    else { s with values := s.values ++ [(name, v)] }
  /-- The process takes variables from words, and becomes what the words after them name. -/
  assigning (zeros : Bool) : List String → Act Unit
    | [] => utility "printenv" (if zeros then ["-0"] else [])
    | word :: rest => do
      let (name, value) := cutAtEquals word
      match value with
      | some value =>
        update (give name ⟨some value, true, false⟩)
        assigning zeros rest
      | none =>
        if zeros then refuse 125 "cannot specify --null with command"
        launch run (word :: rest)

/-- The process becomes a program that may only take some time, and is ended after it. -/
def withLimit (run : Runner) (words : List String) : Act Unit := do
  let (given, operands) ← separated "timeout" words
  let spans := (operands.take 1 ++ Switch.valuesOf given 'k').map Request.millis?
  match spans, (Switch.value? given 's').elim (some 15) (Signal.number? 1) with
  | some limit :: others, some signal =>
    if others.any Option.isNone then refuse 125 "invalid time interval"
    let start := (← world).clock
    let ending ← inChild run (launch run operands.tail)
    if 0 < limit && start + limit < (← world).clock then
      updateWorld fun w => { w with clock := start + limit }
      if signal = 9 then throw (.becomes (.signal 9))
      finish (if Switch.hasNamed given "preserve-status" then 128 + signal else 124)
    else throw (.becomes ending)
  | _, _ => refuse 125 "invalid time interval or signal"

/-- The process starts a program with words from its input. -/
def withInputWords (run : Runner) (words : List String) : Act Unit := do
  let (given, operands) ← separated "xargs" words
  let command := if operands.isEmpty then ["echo"] else operands
  let input ← unread 0
  advance 0 input.length
  let lines := ((input.splitOn '\n').filter (!·.isEmpty)).map String.ofList
  let separator := if Switch.has given '0' then some '\x00'
    else (Switch.value? given 'd').bind fun text =>
      if text = "\\n" then some '\n' else text.toList.head?
  let found ← match separator with
    | some c => pure (((input.splitOn c).filter (!·.isEmpty)).map String.ofList)
    | none =>
      match quotedWords? none none [] input with
      | some words => pure words
      | none =>
        refuse 1 "unmatched quote"
        pure []
  let calls : List (List String) := match Switch.value? given 'I' with
    | some place => lines.map fun line => command.map fun (word : String) => word.replace place line
    | none =>
      match ((Switch.value? given 'n').or (Switch.value? given 'L')).bind String.toNat? with
      | some n =>
        let items := if Switch.has given 'L' then lines else found
        if items.isEmpty && !Switch.has given 'r' then [command]
        else (groupsOf n items.length items).map fun group => command ++ group
      | none => if found.isEmpty && Switch.has given 'r' then [] else [command ++ found]
  let mut status := 0
  for call in calls do
    match ← inChild run (launch run call) with
    | .signal _ => finish 125
    | .status 0 => pure ()
    | .status 127 => finish 127
    | .status 126 => finish 126
    | .status 255 => finish 124
    | .status _ => status := 123
  finish status
where
  /-- Rows of words, with a number of words in each. -/
  groupsOf (size : Nat) : Nat → List String → List (List String)
    | 0, _ => []
    | fuel + 1, all =>
      if all.isEmpty then []
      else all.take (max size 1) :: groupsOf size fuel (all.drop (max size 1))

/-- The process becomes a program with another priority, or tells its own. -/
def withPriority (run : Runner) (words : List String) : Act Unit := do
  let (given, operands) ← separated "nice" words
  let adjusted := Switch.value? given 'n'
  if adjusted.any fun text => (Numeral.decimal? text).isNone then refuse 125 "invalid adjustment"
  if operands.isEmpty then
    if adjusted.isSome then refuse 125 "a command must be given with an adjustment"
    utility "echo" ["0"]
  else launch run operands

/-- The process becomes a program whose outputs are written in another way. -/
def withBuffers (run : Runner) (words : List String) : Act Unit := do
  let (given, operands) ← separated "stdbuf" words
  let isMode (switch : Switch) (text : String) : Bool :=
    text = "L" && switch.letter ≠ some 'i' || (Request.sizeOf? text).isSome
  if given.isEmpty then refuse 125 "you must specify a buffering mode option"
  if given.any fun (switch, value) => !isMode switch (value.getD "") then
    refuse 125 "invalid mode"
  launch run operands

/-- The process becomes what can be executed, with a name that it was given and words. -/
def start (run : Runner) (executable : Host.Executable) (path given : String)
    (words : List String) : Act Unit := do
  update (asProgram given words)
  match executable with
  | .script content =>
    match interpreter? content with
    | some interpreter => run (.program [] (interpreter ++ path :: words))
    | none => shell run .plain (path :: words)
  | .program name =>
    match name with
    | "sh" => shell run .plain words
    | "dash" => shell run .plain words
    | "bash" => shell run .extended words
    | "rbash" => shell run .extended words
    | "env" => withEnvironment run 8 words
    | "timeout" => withLimit run words
    | "xargs" => withInputWords run words
    | "nice" => withPriority run words
    | "nohup" => launch run (← separated name words).2
    | "setsid" => launch run (← separated name words).2
    | "stdbuf" => withBuffers run words
    | "kill" =>
      match ← attempt (do finish (← kill words)) with
      | .error (.becomes ending) => throw (.becomes ending)
      | _ => finish 1
    | _ => utility name words

/-- The status of a shell that cannot start a program. -/
def refusalStatus (dialect : Dialect) (fault : Host.Fault) : Nat :=
  match fault with
  | .missing => 127
  | .notDirectory => if dialect = .plain then 127 else 126
  | .nameTooLong => if dialect = .plain then 127 else 126
  | _ => 126

/-- The process becomes the program that words name, searched for in some directories. -/
def become (run : Runner) (directories words : List String) : Act Unit := do
  match words with
  | [] => finish 0
  | name :: rest =>
    let s ← session
    match (← world).tree.search s.here directories name with
    | .ok (path, executable) => start run executable path name rest
    | .error fault =>
      complain (name ++ ": " ++ (if fault = .missing then "not found" else fault.name))
      setStatus (refusalStatus s.dialect fault)
      throw .ends

end FunctionHost.Rehearsal.Shell.Act
