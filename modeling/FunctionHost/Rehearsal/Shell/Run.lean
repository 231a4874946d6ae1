-- SUMMARY: Carrying out commands and scripts, and how a program on a host ends.
import FunctionHost.Rehearsal.Shell.Condition
import FunctionHost.Rehearsal.Shell.Program
import FunctionHost.Rehearsal.Shell.Reader

/-! # Running

A command is carried out by what runs its parts, with less fuel. A simple command is a function, a
built-in command, or a program in a child. What makes a script stop early is passed on to where it
belongs: loops take breaks, functions take returns, and children end. -/

namespace FunctionHost.Rehearsal.Shell.Act

/-! ## Signals and failures -/

/-- The most rounds of a loop. -/
def roundLimit : Nat := 1000000

/-- Carries out the actions of the signals that have arrived. The status stays what it was. -/
def actions (run : Runner) : Act Unit := do
  receiveSent
  unless (← session).caught.isEmpty do
    iterate roundLimit do
      let s ← session
      match s.caught with
      | [] => return false
      | signal :: rest =>
        let status := s.saved.getD s.status
        update fun s => { s with caught := rest, saved := some status }
        let action := (s.traps.lookup signal).getD ""
        proceed (← attempt (run (.script false false action.toList)))
        update fun t => { t with status, saved := s.saved }
        return true

/-- The place of failures among the signals for which there may be actions. -/
def failureEvent : Nat := 65

/-- Carries out the action for failures and ends a shell that ends at failures, unless what failed
    is tested. -/
def checkFailure (run : Runner) (tested : Bool) : Act Unit := do
  let s ← session
  unless tested || s.status = 0 do
    match s.traps.lookup failureEvent with
    | some action =>
      if s.locals.isEmpty && !action.isEmpty then
        let without := s.traps.filter (·.1 ≠ failureEvent)
        update fun s => { s with traps := without, saved := some s.status }
        let result ← attempt (run (.script true false action.toList))
        update fun t => { t with traps := s.traps, saved := s.saved }
        proceed result
        setStatus s.status
    | none => pure ()
    if s.isOn 'e' then throw .ends

/-! ## Functions and built-in commands -/

/-- Does something while variables have other values, which are given to programs. -/
def withValues (run : Runner) (assignments : List Assignment) (act : Act Unit) : Act Unit := do
  let before ← session
  assignments.forM (give run assignExported)
  let result ← attempt act
  update fun s => assignments.foldl (fun s assignment =>
    match assignment with
    | .text name none _ => s.withVariable name (before.entry? name)
    | _ => s) s
  proceed result

/-- How deeply functions may call each other. -/
def deepestCall : Nat := 1000

/-- Calls a function. -/
def call (run : Runner) (tested : Bool) (body : Command) (arguments : List String) : Act Unit := do
  let before ← session
  if deepestCall ≤ before.locals.length then
    mistake 2 2 "Maximum function recursion depth reached"
  update fun s => { s with arguments, loops := 0, locals := [] :: s.locals }
  let result ← attempt (run (.command tested body))
  update fun s =>
    let restored := (s.locals.headD []).foldl (fun s (name, old) =>
      let values := s.values.filter fun (other, _) => arrayOf other ≠ name
      { s with values }.withVariable name old) s
    { restored with
      arguments := before.arguments, loops := before.loops, locals := before.locals }
  match result with
  | .error .returns => return ()
  | other => proceed other

/-- The content of a file with commands, by its path or by a name that is searched for. -/
def sourceText (name : String) : Act (List Char) := do
  let s ← session
  let tree := (← world).tree
  let directories ← searched
  let candidates := if name.contains '/' then [name]
    else directories.map (Host.Tree.inDirectory · name)
      ++ (if s.dialect = .extended then [name] else [])
  let found := candidates.findSome? fun path =>
    match tree.open? s.here path with
    | .ok (_, .file content _) => some content
    | .ok (_, .void) => some []
    | .ok (_, .directory) => if s.dialect = .plain && name.contains '/' then some [] else none
    | _ => none
  match found with
  | some content => return content
  | none => mistake 2 1 (name ++ ": not found")

/-- A built-in command by name. -/
def builtin (run : Runner) (tested : Bool) (name : String) (words : List String) : Act Nat := do
  match name with
  | "eval" =>
    run (.script tested false (String.intercalate " " words).toList)
    return (← session).status
  | "exec" =>
    let extended := (← session).dialect = .extended
    let bare := if extended then (optionsOf ['a'] words).2
      else if words.head? = some "--" then words.tail else words
    match bare with
    | [] => return 0
    | words =>
      match ← attempt (run (.program (← searched) words)), (← session).dialect with
      | .error .ends, .extended => throw (.becomes (.status (← session).status))
      | other, _ => proceed other; return 0
  | "." => sourced
  | "source" => sourced
  | _ =>
    match simpleBuiltin? name words with
    | some act => act
    | none => return 0
where
  /-- Carries out a file with commands. -/
  sourced : Act Nat := do
    match words with
    | [] =>
      if (← session).dialect = .plain then return 0
      else mistake 2 2 "filename argument required"
    | name :: _ =>
      let content ← sourceText name
      update fun s => { s with files := s.files + 1 }
      let result ← attempt (run (.script tested false content))
      update fun s => { s with files := s.files - 1 }
      match result with
      | .error .returns => return (← session).status
      | other =>
        proceed other
        return (← session).status

/-! ## Simple commands -/

/-- The texts of the words of a command. A word that assigns is not cut after some commands. -/
def wordTexts (run : Runner) (words : List (List Part)) : Act (List String) := do
  let mut done : List String := []
  for word in words do
    let assigns := Reader.declaringNames.contains (done.headD "")
    match (if assigns then Reader.nameOf word else ("", [])) with
    | (name, .plain '=' :: value) =>
      done := done ++ [name ++ "=" ++ (← assignedText run value)]
    | _ => done := done ++ (← fields run word)
  return done

/-- The words after a request to run a command by its name only, whether that shall only be
    described, and whether in full. -/
def commandWords : List String → List String × Bool × Bool
  | "-p" :: rest => commandWords rest
  | "-v" :: rest => (rest, true, false)
  | "-V" :: rest => (rest, true, true)
  | "--" :: rest => (rest, false, false)
  | words => (words, false, false)

/-- Carries out a command without words: redirections are tried, and variables get values. -/
def onlyAssign (run : Runner) (assignments : List Assignment) (redirections : List Redirection) :
    Act Unit :=
  redirected run redirections false (return ()) do
    assignments.forM (give run assign)
    setStatus (← session).substituted

/-- Carries out a built-in command. A mistake in one that is special is passed on. -/
def runBuiltin (run : Runner) (tested special : Bool) (assignments : List Assignment)
    (redirections : List Redirection) (name : String) (words : List String) : Act Unit := do
  let act : Act Unit := do setStatus (← builtin run tested name words)
  if special then
    redirected run redirections (name = "exec" && words.isEmpty) (throw .mistake) do
      assignments.forM (give run (if name = "exec" then assignExported else assign))
      act
  else
    redirected run redirections (name = "exec" && words.isEmpty) (return ()) do
      withValues run assignments do
        match ← attempt act with
        | .error .mistake => return ()
        | other => proceed other

/-- Carries out a program in a child, or in the place of the shell. -/
def runProgram (run : Runner) (inPlace : Bool) (assignments : List Assignment)
    (redirections : List Redirection) (words : List String) : Act Unit :=
  redirected run redirections false (return ()) do
    withValues run assignments do
      let become : Act Unit := do run (.program (← searched) words)
      if inPlace then become else setStatus (← inChild run become).code

/-- Carries out a simple command. A program may take the place of the shell. -/
def runSimple (run : Runner) (tested inPlace : Bool) (assignments : List Assignment)
    (words : List (List Part)) (redirections : List Redirection) : Act Unit := do
  update fun s => { s with substituted := 0 }
  let texts ← wordTexts run words
  let s ← session
  let plainly (name : String) (rest : List String) (only : Bool) : Act Unit := do
    if ← isBuiltin name then
      let special := !only && s.dialect = .plain && specialNames.contains name
      runBuiltin run tested special assignments redirections name rest
    else runProgram run inPlace assignments redirections (name :: rest)
  match texts with
  | [] => onlyAssign run assignments redirections
  | name :: rest =>
    match s.functions.lookup name with
    | some body =>
      redirected run redirections false (return ()) do
        withValues run assignments do call run tested body rest
    | none =>
      if name = "command" || (name = "builtin" && s.dialect = .extended) then
        match commandWords rest with
        | ([], false, _) => onlyAssign run [] redirections
        | (inner :: rest, false, _) =>
          if name = "builtin" && !(← isBuiltin inner) then
            complain (inner ++ ": not a shell builtin")
            setStatus 1
          else plainly inner rest true
        | (names, true, full) =>
          redirected run redirections false (return ()) do
            setStatus (← describeAll full (if s.dialect = .plain then 127 else 1) names)
      else plainly name rest false

/-! ## Compound commands -/

/-- Carries out a command in a child. -/
def runSubshell (run : Runner) (tested : Bool) (body : Command) : Act Unit := do
  setStatus (← inChild run (run (.command tested body))).code

/-- Carries out a command in the background. -/
def runBackground (run : Runner) (body : Command) : Act Unit := do
  let begins := (← world).clock
  let input ← openChannel .void
  let number ← newNumber
  let ignoring (s : Session) : Session :=
    let s := (s.forked number).withDescriptor 0 (some input)
    { s with traps := (2, "") :: (3, "") :: s.traps }
  let ending ← proceed
    (← inCopy ignoring (conclude run (run (.command false body))))
  let ends := (← world).clock
  updateWorld fun w => { w with clock := begins }
  update fun s => { s with
    jobs := s.jobs ++ [⟨number, ends, ending⟩], lastJob := some number, status := 0 }

/-- Carries out the stages of a pipeline, each of which reads what the one before it wrote, from a
    time on. The endings are told with the time when all of them have ended. -/
def runStages (run : Runner) (tested : Bool) (begins latest : Nat) (input : Option (List Char)) :
    List Command → Act (List Ending × Nat)
  | [] => return ([], latest)
  | stage :: rest => do
    updateWorld fun w => { w with clock := begins }
    let source ← match input with
      | some text => do pure (some (← openChannel (.source text)))
      | none => pure none
    let reading (s : Session) : Session :=
      source.elim s fun channel => s.withDescriptor 0 (some channel)
    let act := conclude run (run (.command tested stage))
    if rest.isEmpty then
      let number ← newNumber
      let ending ← proceed (← inCopy (fun s => reading (s.forked number)) act)
      return ([ending], max latest (← world).clock)
    else
      let (ending, text) ← capture reading act
      let (endings, latest) ←
        runStages run tested begins (max latest (← world).clock) (some text) rest
      return (ending :: endings, latest)

/-- Carries out a pipeline. Its status is that of the last stage. -/
def runPipeline (run : Runner) (tested : Bool) (stages : List Command) : Act Unit := do
  let begins := (← world).clock
  let (endings, latest) ← runStages run tested begins begins none stages
  updateWorld fun w => { w with clock := latest }
  let codes := endings.map Ending.code
  let failed := (codes.filter (· ≠ 0)).getLast?
  if (← session).dialect = .extended then
    for (code, i) in codes.zipIdx do
      assign (Arithmetic.elementName "PIPESTATUS" i) (toString code)
  setStatus (if (← session).isOn 'P' then failed.getD 0 else codes.getLast?.getD 0)
  receiveSent

/-- What a round of a loop comes to, and whether it asks for another one. Breaks out of several
    loops go on to the next loop around. -/
def round (act : Act Bool) : Act Bool := do
  match ← attempt act with
  | .error (.breaks n) => if n ≤ 1 then return false else throw (.breaks (n - 1))
  | .error (.continues n) => if n ≤ 1 then return true else throw (.continues (n - 1))
  | other => proceed other

/-- Does something inside one more loop. -/
def insideLoop (act : Act Unit) : Act Unit := do
  let loops := (← session).loops
  update fun s => { s with loops := loops + 1 }
  let result ← attempt act
  update fun s => { s with loops }
  proceed result

/-- Rounds of a loop with a test, after a round with a status. The status of the loop is that of the
    last round. -/
def rounds (run : Runner) (tested inverted : Bool) (test body : Command) (limit status : Nat) :
    Act Unit := do
  match limit with
  | 0 => throw .exhausted
  | limit + 1 =>
    let entered ← round do
      run (.command true test)
      return ((← session).status = 0) != inverted
    if entered then
      let again ← round do
        run (.command tested body)
        return true
      if again then rounds run tested inverted test body limit (← session).status
    else setStatus status

/-- Rounds of a loop over texts. -/
def roundsOver (run : Runner) (tested : Bool) (name : String) (body : Command) :
    List String → Act Unit
  | [] => return ()
  | text :: rest => do
    assign name text
    let again ← round do
      run (.command tested body)
      return true
    if again then roundsOver run tested name body rest

/-- The value of an expression in a command, unless it has none. -/
def expressionValue (run : Runner) (text : List Part) : Act Int := do
  arithmetic (← uncut (← cellsOf run false text))

/-- Carries out an expression, which fails if its value is zero. -/
def runExpression (run : Runner) (text : List Part) : Act Unit := do
  match ← attempt (expressionValue run text) with
  | .ok n => setStatus (if n = 0 then 1 else 0)
  | .error .mistake => setStatus 1
  | .error other => throw other

/-- Rounds of a loop that counts. An expression that is not there is true. -/
def roundsCounting (run : Runner) (tested : Bool) (test step : List Part) (body : Command)
    (limit : Nat) : Act Unit := do
  match limit with
  | 0 => throw .exhausted
  | limit + 1 =>
    let isVacant := test.all fun part => part matches .quoted ' '
    let goesOn ← if isVacant then pure true else do pure ((← expressionValue run test) ≠ 0)
    if goesOn then
      let again ← round do
        run (.command tested body)
        return true
      if again then
        let _ ← expressionValue run step
        roundsCounting run tested test step body limit

/-- Carries out a loop that counts. -/
def runCounting (run : Runner) (tested : Bool) (start test step : List Part) (body : Command) :
    Act Unit := do
  setStatus 0
  let whole : Act Unit := do
    let _ ← expressionValue run start
    insideLoop (roundsCounting run tested test step body roundLimit)
  match ← attempt whole with
  | .error .mistake => setStatus 1
  | other => proceed other

/-- Carries out a condition. -/
def runCondition (run : Runner) (condition : Condition) : Act Unit := do
  match ← attempt (holds run condition) with
  | .ok answer => setStatus (if answer then 0 else 1)
  | .error .mistake => setStatus (max (← session).status 1)
  | .error other => throw other

/-- The branch of a selection whose patterns match a text. -/
def branchFor (run : Runner) (text : List Char) : List Branch → Act (Option Command)
  | [] => return none
  | .mk patterns body :: rest => do
    if ← anyMatches patterns then return body else branchFor run text rest
where
  /-- Whether one of some patterns matches. -/
  anyMatches : List (List Part) → Act Bool
    | [] => return false
    | word :: rest => do
      if Pattern.matchesText (← pattern run word) text then return true else anyMatches rest

/-- The commands of a list in a row. -/
def row (command : Command) (after : List Command) : List Command :=
  match command with
  | .sequence first second => row first (row second after)
  | command => command :: after

/-- Carries out commands one after the other. -/
def runRow (run : Runner) (tested : Bool) : List Command → Act Unit
  | [] => return ()
  | command :: rest => do
    run (.command tested command)
    runRow run tested rest

/-- Carries out a command, without the actions for signals before and after it. -/
def runCommand (run : Runner) (tested : Bool) (command : Command) : Act Unit := do
  match command with
  | .simple assignments words redirections =>
    runSimple run tested false assignments words redirections
    checkFailure run tested
  | .last (.simple assignments words redirections) =>
    let inPlace := (← session).traps.isEmpty
    runSimple run tested inPlace assignments words redirections
    checkFailure run tested
  | .last command => run (.command tested command)
  | .expression text =>
    runExpression run text
    checkFailure run tested
  | .condition condition =>
    runCondition run condition
    checkFailure run tested
  | .pipeline stages =>
    runPipeline run tested stages
    checkFailure run tested
  | .negation command =>
    run (.command true command)
    setStatus (if (← session).status = 0 then 1 else 0)
  | .conjunction first second =>
    run (.command true first)
    if (← session).status = 0 then run (.command tested second)
  | .disjunction first second =>
    run (.command true first)
    if (← session).status ≠ 0 then run (.command tested second)
  | .sequence first second => runRow run tested (row first (row second []))
  | .background command => runBackground run command
  | .subshell command =>
    runSubshell run tested command
    checkFailure run tested
  | .redirected (.subshell command) redirections =>
    redirected run redirections false (return ()) (runSubshell run tested command)
    checkFailure run tested
  | .redirected command redirections =>
    redirected run redirections false (checkFailure run tested) (run (.command tested command))
  | .choice test yes no =>
    run (.command true test)
    if (← session).status = 0 then run (.command tested yes)
    else
      match no with
      | some no => run (.command tested no)
      | none => setStatus 0
  | .loop inverted test body => insideLoop (rounds run tested inverted test body roundLimit 0)
  | .group command => run (.command tested command)
  | .each name words body =>
    unless isName name do mistake 2 1 (name ++ ": not a valid identifier")
    let texts ← match words with
      | some words => do pure (← words.mapM (fields run)).flatten
      | none => do pure (← session).arguments
    if texts.isEmpty then setStatus 0
    else insideLoop (roundsOver run tested name body texts)
  | .select word branches =>
    let subject ← text run word
    match ← branchFor run subject.toList branches with
    | some body => run (.command tested body)
    | none => setStatus 0
  | .counting start test step body => runCounting run tested start test step body
  | .definition name body =>
    update fun s => { s with functions := (name, body) :: s.functions.filter (·.1 ≠ name) }
    setStatus 0

/-- A command in which what is done last is known to be so, if it is a simple command without
    redirections. -/
def endingWith (command : Command) : Command :=
  match command with
  | .simple assignments words [] => .last (.simple assignments words [])
  | .sequence first (.simple assignments words []) =>
    .sequence first (.last (.simple assignments words []))
  | .conjunction first (.simple assignments words []) =>
    .conjunction first (.last (.simple assignments words []))
  | .disjunction first (.simple assignments words []) =>
    .disjunction first (.last (.simple assignments words []))
  | command => command

/-- Whether a script goes on with its next line after a mistake: in the extended language it does,
    but not in a child. -/
def survives : Act Bool := do
  let s ← session
  return s.dialect = .extended && s.number = s.identity

/-- Carries out the lines of a script, each of them before the next one is read. The last thing that
    is done may take the place of a shell of the extended language. -/
def runLines (run : Runner) (tested whole : Bool) (fuel : Nat) (begun : Bool) (text : List Char) :
    Act Unit := do
  match fuel with
  | 0 => return ()
  | fuel + 1 =>
    let dialect := (← session).dialect
    match Reader.line? dialect text with
    | none => mistake 2 2 "Syntax error"
    | some ((command, atEnd), rest) =>
      let isLast := whole && dialect = .extended && (atEnd || rest.all Numeral.isSpace)
      match command with
      | some command =>
        let command := if isLast then endingWith command else command
        match ← attempt (run (.command tested command)) with
        | .error .mistake => unless ← survives do throw .mistake
        | other => proceed other
      | none => pure ()
      let begun := begun || command.isSome
      if atEnd then unless begun do setStatus 0
      else runLines run tested whole fuel begun rest

/-- Does the work of a shell, with something that does the work inside of it. -/
def workWith (run : Runner) : Runner
  | .command tested command => do
    unless (← session).isOn 'n' do
      actions run
      runCommand run tested command
      actions run
  | .script tested whole text => runLines run tested whole (text.length + 1) false text
  | .program directories words => become run directories words

/-- Does the work of a shell, as deeply nested as there is fuel. -/
def runner : Nat → Runner
  | 0 => fun _ => throw .exhausted
  | fuel + 1 => workWith (runner fuel)

/-- How deeply commands may be nested. -/
def deepest : Nat := 10000

end FunctionHost.Rehearsal.Shell.Act

namespace FunctionHost.Rehearsal.Shell

/-- A host and the session of a process on it that is about to become a program: its input is
    empty, and nobody reads what it writes. -/
def Machine.fresh (tree : Host.Tree) (here : Host.Place) (values : List (String × String)) :
    Machine where
  world := ⟨tree, #[.source [], .void], 0, firstNumber, []⟩
  session := {
    number := firstNumber
    parent := 1
    identity := firstNumber
    dialect := .plain
    name := ""
    arguments := []
    values := values.map fun (name, value) => (name, ⟨some value, true, false⟩)
    functions := []
    traps := []
    caught := []
    flags := []
    status := 0
    substituted := 0
    saved := none
    here
    descriptors := [(0, 0), (1, 1), (2, 1)]
    jobs := []
    lastJob := none
    loops := 0
    files := 0
    locals := []
    optionAt := (1, 0) }

/-- How a process ends that becomes a program, by the name that it was given and with words, unless
    it never ends. -/
def execute (machine : Machine) (executable : Host.Executable) (path given : String)
    (words : List String) : Option Ending :=
  let run := Act.runner Act.deepest
  match (Act.start run executable path given words).run.run machine with
  | (.error (.becomes ending), _) => some ending
  | (.error .exhausted, _) => none
  | (_, after) => some (.status after.session.status)

end FunctionHost.Rehearsal.Shell
