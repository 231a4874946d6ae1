-- SUMMARY: Reading scripts, one line of commands at a time.
import FunctionHost.Rehearsal.Shell.Braces
import FunctionHost.Rehearsal.Shell.Script

/-! # Reading scripts

A script is read line by line, because a line is carried out before the next one is read. A line
ends at a line feed outside of all quotes and compound commands. Reading fails at what is no
script; every reader takes fuel, of which a multiple of the length of the script is enough. -/

namespace FunctionHost.Rehearsal.Shell

/-- Reads a part of a script in a language, or fails. The state is what is left of the script. -/
abbrev Reader (α : Type) := ReaderT Dialect (StateT (List Char) Option) α

namespace Reader

/-- Whether the language is the extended one. -/
def isExtended : Reader Bool :=
  return (← read) = .extended

/-- Reads a text of its own in the same language. -/
def apart {α : Type} (reader : Reader α) (text : List Char) : Reader α := do
  liftM ((reader.run (← read)).run' text)

/-- Looks for something that only the extended language has. -/
def extendedOnly (reader : Reader Bool) : Reader Bool := do
  if ← isExtended then reader else return false

/-- Whether a character ends a word that has no quotes around it. -/
def endsWord (c : Char) : Bool :=
  " \t\n;&|<>()".contains c

/-- What follows blanks, continued lines and a comment. -/
def skipBlanks : List Char → List Char
  | ' ' :: rest => skipBlanks rest
  | '\t' :: rest => skipBlanks rest
  | '\\' :: '\n' :: rest => skipBlanks rest
  | '#' :: rest => rest.dropWhile (· ≠ '\n')
  | cs => cs

/-- Passes over blanks, continued lines and a comment. -/
def blanks : Reader Unit :=
  modify skipBlanks

/-- Passes over line feeds too. -/
def newlines : Nat → Reader Unit
  | 0 => failure
  | n + 1 => do
    blanks
    match ← get with
    | '\n' :: rest => set rest; newlines n
    | _ => pure ()

/-- The operators of the language, the longer ones first. -/
def operators : List String :=
  ["&&", "||", ";;", "&", "|", ";", "(", ")", "\n"]

/-- The operator that comes next. In the extended language an ampersand may be part of a pipe or of
    a redirection. -/
def nextOperator? : Reader (Option String) := do
  blanks
  let cs ← get
  match ← isExtended, cs with
  | true, '&' :: '>' :: _ => return none
  | true, '|' :: '&' :: _ => return some "|&"
  | _, _ => return operators.find? fun op => op.toList.isPrefixOf cs

/-- The characters up to the end of a word without quotes, over continued lines, and what follows
    them. -/
def bareWord : List Char → List Char × List Char
  | '\\' :: '\n' :: rest => bareWord rest
  | c :: rest =>
    if endsWord c then ([], c :: rest)
    else
      let (word, after) := bareWord rest
      (c :: word, after)
  | [] => ([], [])

/-- The text of the word that comes next, if it has no quotes: it may be a word of the language. -/
def nextWord : Reader String := do
  blanks
  return String.ofList (bareWord (← get)).1

/-- Whether a script comes next whose output is read from a path. -/
def streamFollows : Reader Bool := do
  match ← get with
  | '<' :: '(' :: _ => isExtended
  | _ => return false

/-- Whether a word comes next. -/
def wordFollows : Reader Bool := do
  blanks
  if ← streamFollows then return true
  else return ((← get).head?.map fun c => !endsWord c).getD false

/-- Whether nothing comes any more. -/
def atEnd : Reader Bool := do
  blanks
  return (← get).isEmpty

/-- Whether a command ends here. -/
def endsHere : Reader Bool := do
  let op ← nextOperator?
  return (op.any (· ≠ "(")) || (← atEnd)

/-- Passes over a text that comes next, if it does. -/
def take? (text : String) : Reader Bool := do
  if text.toList.isPrefixOf (← get) then
    modify (List.drop text.length)
    return true
  else return false

/-- Passes over an operator that comes next, if it does. -/
def operator? (op : String) : Reader Bool := do
  if (← nextOperator?) = some op then take? op else return false

/-- Passes over a word of the language that comes next, if it does. -/
def keyword? (word : String) : Reader Bool := do
  if (← nextWord) = word then
    modify fun cs => (bareWord cs).2
    return true
  else return false

/-- Passes over a word of the language, which must come next. -/
def keyword (word : String) : Reader Unit := do
  unless ← keyword? word do failure

/-- Passes over an operator, which must come next. -/
def operator (op : String) : Reader Unit := do
  unless ← operator? op do failure

/-- Where the parts of a text end: where a word ends, at a double quote, at a closing brace, in
    front of a sign or of a closing brace, at the end, at two parentheses that close an expression,
    or at a blank outside of all parentheses; some of these are open in between. -/
inductive Stop where
  | word
  | quote
  | brace
  | sign (c : Char)
  | document
  | expression (opened : Nat)
  | blank (opened : Nat)
  deriving Repr, DecidableEq

/-- A character inside or outside of quotes. -/
def letter (quoted : Bool) (c : Char) : Part :=
  if quoted then .quoted c else .plain c

/-- What is between single quotes, without the first. -/
def singleQuoted : Reader (List Part) := do
  let cs ← get
  let inside := cs.takeWhile (· ≠ '\x27')
  match cs.drop inside.length with
  | _ :: rest => set rest; return .quotes :: inside.map .quoted
  | [] => failure

/-- The characters that letters after a backslash stand for. -/
def escapes : List (Char × Char) :=
  [('n', '\n'), ('t', '\t'), ('r', '\x0d'), ('a', '\x07'), ('b', '\x08'), ('e', '\x1b'),
    ('E', '\x1b'), ('f', '\x0c'), ('v', '\x0b')]

/-- What is between single quotes after a dollar sign, without the first, and what follows it. There
    a backslash stands in front of letters and digits that mean another character. Characters read
    before are in `done`, backwards. -/
def escapedQuoted (fuel : Nat) (done : List Char) (cs : List Char) :
    Option (List Char × List Char) :=
  match fuel with
  | 0 => none
  | fuel + 1 =>
    match cs with
    | [] => none
    | '\x27' :: rest => some (done.reverse, rest)
    | '\\' :: 'x' :: d :: rest =>
      let digits := ((d :: rest).take 2).takeWhile (Numeral.isDigitIn 16)
      if digits.isEmpty then escapedQuoted fuel ('x' :: '\\' :: done) (d :: rest)
      else
        escapedQuoted fuel (Char.ofNat (Numeral.ofDigits 16 digits) :: done)
          ((d :: rest).drop digits.length)
    | '\\' :: c :: rest =>
      let digits := ((c :: rest).take 3).takeWhile (Numeral.isDigitIn 8)
      if digits.isEmpty then
        let kept := if "\\\x27\x22?".contains c then [c] else [c, '\\']
        let new := ((escapes.lookup c).map fun e => [e]).getD kept
        escapedQuoted fuel (new ++ done) rest
      else
        escapedQuoted fuel (Char.ofNat (Numeral.ofDigits 8 digits % 256) :: done)
          ((c :: rest).drop digits.length)
    | c :: rest => escapedQuoted fuel (c :: done) rest

/-- The text of a command between backquotes, without the first, read backwards in front of
    `done`. A backslash in front of another one, a dollar sign or a backquote goes. -/
def backquoted (quoted : Bool) (done : List Char) : List Char → Option (List Char × List Char)
  | '\\' :: '\n' :: rest => backquoted quoted done rest
  | '\\' :: c :: rest =>
    if c = '\\' || c = '$' || c = '\x60' || (quoted && c = '\x22') then
      backquoted quoted (c :: done) rest
    else backquoted quoted (c :: '\\' :: done) rest
  | '\x60' :: rest => some (done.reverse, rest)
  | c :: rest => backquoted quoted (c :: done) rest
  | [] => none

/-- The parameters that have a sign for a name. -/
def signs : List Char :=
  "?$!#*@-".toList

/-- The name of the parameter that comes next, after a dollar sign or an opening brace. Only in
    braces a number may have several digits. -/
def parameterName (braced : Bool) : Reader String := do
  let cs ← get
  let name :=
    match cs with
    | c :: _ =>
      if c.isDigit then (if braced then cs.takeWhile Char.isDigit else [c])
      else if signs.contains c then [c]
      else leadingName cs
    | [] => []
  set (cs.drop name.length)
  return String.ofList name

/-- The name of the parameter that is measured in braces, without the opening one, and what follows
    the closing one. The name is empty if a single sign in front of the closing brace is none. -/
def measured (cs : List Char) : Option (String × List Char) :=
  match cs with
  | '#' :: c :: rest =>
    let name := if c.isDigit then (c :: rest).takeWhile Char.isDigit else leadingName (c :: rest)
    if name.isEmpty then
      match rest with
      | '\x7d' :: after =>
        if c = '\x7d' then none else some (if signs.contains c then c.toString else "", after)
      | _ => none
    else
      match (c :: rest).drop name.length with
      | '\x7d' :: after => some (String.ofList name, after)
      | _ => none
  | _ => none

/-- Whether a sign comes next that has the name of a variable behind it. In the extended language it
    is passed over. -/
def signOfName? (sign : Char) : Reader Bool := do
  match ← isExtended, ← get with
  | true, c :: rest =>
    if c = sign && !(leadingName rest).isEmpty then
      set rest
      return true
    else return false
  | _, _ => return false

/-- Which matches are replaced, as a sign in front of the pattern tells. -/
def extentOf : Reader Extent := do
  if ← take? "/" then return .all
  else if ← take? "#" then return .atStart
  else if ← take? "%" then return .atEnd
  else return .first

/-- The text of a word without expansions, if it has no quotes either. -/
def plainName? (word : List Part) : Option String :=
  (word.mapM fun part =>
    match part with
    | Part.plain c => some c
    | _ => none).map String.ofList

/-- The word that ends a document, in which nothing is expanded, whether it has quotes, and what
    follows it. Characters read before are in `done`, backwards. -/
def delimiter? (fuel : Nat) (quoted : Bool) (done : List Char) (cs : List Char) :
    Option (List Char × Bool × List Char) :=
  match fuel with
  | 0 => none
  | fuel + 1 =>
    match cs with
    | '\\' :: '\n' :: rest => delimiter? fuel quoted done rest
    | '\\' :: c :: rest => delimiter? fuel true (c :: done) rest
    | c :: rest =>
      if c = '\x27' || c = '\x22' then
        let inside := rest.takeWhile (· ≠ c)
        match rest.drop inside.length with
        | _ :: after => delimiter? fuel true (inside.reverse ++ done) after
        | [] => none
      else if endsWord c then some (done.reverse, quoted, cs)
      else delimiter? fuel quoted (c :: done) rest
    | [] => some (done.reverse, quoted, [])

/-- The rest of a line, over continued lines, and what follows it with its line feed. -/
def restOfLine : List Char → List Char × List Char
  | '\\' :: c :: rest =>
    let (line, after) := restOfLine rest
    ('\\' :: c :: line, after)
  | '\n' :: rest => ([], '\n' :: rest)
  | c :: rest =>
    let (line, after) := restOfLine rest
    (c :: line, after)
  | [] => ([], [])

/-- The lines of a document up to its delimiter, backwards in front of `done`, and what follows.
    Tabs at the starts of lines may go. -/
def documentLines (fuel : Nat) (tabs : Bool) (delimiter : List Char) (done : List Char)
    (cs : List Char) : List Char × List Char :=
  match fuel with
  | 0 => (done.reverse, cs)
  | fuel + 1 =>
    if cs.isEmpty then (done.reverse, [])
    else
      let cs := if tabs then cs.dropWhile (· = '\t') else cs
      let line := cs.takeWhile (· ≠ '\n')
      let rest := cs.drop (line.length + 1)
      if line = delimiter then (done.reverse, rest)
      else documentLines fuel tabs delimiter ('\n' :: line.reverse ++ done) rest

/-- The words that end a list of commands. -/
def closingWords : List String :=
  ["then", "elif", "else", "fi", "do", "done", "esac", "\x7d"]

/-- Whether a list of commands ends here. -/
def closes : Reader Bool := do
  let op ← nextOperator?
  if op = some ")" || op = some ";;" then return true
  if ← atEnd then return true
  return closingWords.contains (← nextWord)

/-- The number and the operator of a redirection that comes next. In the plain language the number
    has one digit. -/
def redirectionStart? : Reader (Option (Option Nat × String)) := do
  blanks
  let cs ← get
  let digits := cs.takeWhile Char.isDigit
  let digits := if ← isExtended then digits else digits.take 1
  let (descriptor, after) :=
    if digits.isEmpty then (none, cs)
    else (some (Numeral.ofDigits 10 digits), cs.drop digits.length)
  let more := if !(← isExtended) then []
    else if descriptor.isSome then ["<<<"]
    else ["<<<", "&>>", "&>"]
  let ops := more ++ ["<<-", "<<", "<&", "<>", "<", ">>", ">&", ">|", ">"]
  if ← streamFollows then return none
  match ops.find? fun op => op.toList.isPrefixOf after with
  | some op =>
    set (after.drop op.length)
    return some (descriptor, op)
  | none => return none

/-- Whether a redirection comes next. -/
def redirectionFollows : Reader Bool := do
  let cs ← get
  let start ← redirectionStart?
  set cs
  return start.isSome

/-- A list of commands one after the other. -/
def inSequence (before : Option Command) (command : Command) : Command :=
  match before with
  | some first => .sequence first command
  | none => command

/-- A simple command, of which everything was read backwards. There must be something of it. -/
def simpleOf (assignments : List Assignment) (words : List (List Part))
    (redirections : List Redirection) : Reader Command :=
  if assignments.isEmpty && words.isEmpty && redirections.isEmpty then failure
  else return .simple assignments.reverse words.reverse redirections.reverse

/-- The name at the start of a word, and the parts after it. Nothing of it may be quoted. -/
def nameOf (word : List Part) : String × List Part :=
  let letters := (word.map fun part =>
    match part with
    | .plain c => c
    | _ => ' ')
  let name := leadingName letters
  (String.ofList name, word.drop name.length)

/-- The name, the index and the value after an equals sign, if a word assigns one. What a value is
    added to comes in front of it. -/
def assignment? (word : List Part) : Reader (Option (String × Option (List Part) × List Part)) := do
  let (name, after) := nameOf word
  if name.isEmpty then return none
  let extended ← isExtended
  let (index, after) :=
    match after with
    | .plain '[' :: rest =>
      let inside := rest.takeWhile fun part => !(part matches Part.plain ']')
      if extended && inside.length < rest.length then
        (some inside, rest.drop (inside.length + 1))
      else (none, after)
    | _ => (none, after)
  match after with
  | .plain '=' :: value => return some (name, index, value)
  | .plain '+' :: .plain '=' :: value =>
    let old : Rule := .fallback false []
    let old := index.elim old fun index => .element index old
    return if extended then some (name, index, .parameter true name old :: value) else none
  | _ => return none

/-- The words that a word stands for because of its braces, backwards. -/
def spread (dialect : Dialect) (word : List Part) : List (List Part) :=
  match dialect with
  | .plain => [word]
  | .extended => (Part.alternatives word).reverse

/-- The commands that declare variables. -/
def declaringNames : List String :=
  ["declare", "export", "local", "readonly", "typeset"]

/-- The operators of a condition in front of one word. -/
def conditionSigns : List String :=
  ("abcdefghknoprstuvwxzGLNORS".toList).map fun c => String.ofList ['-', c]

/-- The operators of a condition between two words that look like words. -/
def conditionOperators : List String :=
  ["=", "==", "!=", "-eq", "-ne", "-lt", "-le", "-gt", "-ge", "-nt", "-ot", "-ef"]

/-- The commands that are part of the language and whose names no definition may take. -/
def reservedNames : List String :=
  [".", ":", "break", "continue", "eval", "exec", "exit", "export", "local", "readonly", "return",
    "set", "shift", "times", "trap", "unset"]

mutual

/-- The parts of a text up to where it ends, backwards in front of `done`. -/
def parts : Nat → Bool → Stop → List Part → Reader (List Part)
  | 0, _, _, _ => failure
  | n + 1, quoted, stop, done => do
    match ← get with
    | [] => if stop = .word || stop = .document then return done.reverse else failure
    | c :: rest =>
      if c = '\\' then
        match rest with
        | '\n' :: rest => set rest; parts n quoted stop done
        | e :: after =>
          let special := "$\x60\\".contains e || (e = '\x22' && stop ≠ .document)
            || (e = '\x7d' && stop = .brace)
          if !quoted || special then
            set after
            parts n quoted stop (.quoted e :: done)
          else
            set rest
            parts n quoted stop (.quoted c :: done)
        | [] => set rest; parts n quoted stop (letter quoted c :: done)
      else if c = '$' then
        set rest
        match !quoted && (← isExtended), rest with
        | true, '\x27' :: inside =>
          match escapedQuoted (inside.length + 1) [] inside with
          | some (text, after) =>
            set after
            parts n quoted stop ((Part.quotes :: text.map .quoted).reverse ++ done)
          | none => failure
        | true, '\x22' :: _ => parts n quoted stop done
        | _, _ => parts n quoted stop ((← dollar n quoted) :: done)
      else if c = '\x60' then
        match backquoted quoted [] rest with
        | some (text, after) =>
          let script ← apart (commands n false) text
          set after
          parts n quoted stop (.output quoted script :: done)
        | none => failure
      else
        match stop with
        | .word =>
          if ← streamFollows then
            set (rest.drop 1)
            let script ← commands n false
            operator ")"
            parts n quoted stop (.stream script :: done)
          else if endsWord c then return done.reverse
          else quotesOrLetter n quoted stop done c rest
        | .brace =>
          if c = '\x7d' then set rest; return done.reverse
          else quotesOrLetter n quoted stop done c rest
        | .sign sign =>
          if c = sign || c = '\x7d' then return done.reverse
          else quotesOrLetter n quoted stop done c rest
        | .blank opened =>
          match opened with
          | 0 =>
            if " \t\n;&<>)".contains c then return done.reverse
            else
              quotesOrLetter n quoted (if c = '(' then .blank 1 else stop) done c rest
          | more + 1 =>
            let next := if c = '(' then more + 2 else if c = ')' then more else more + 1
            quotesOrLetter n quoted (.blank next) done c rest
        | .quote =>
          if c = '\x22' then set rest; return done.reverse
          else set rest; parts n quoted stop (.quoted c :: done)
        | .document => set rest; parts n quoted stop (.quoted c :: done)
        | .expression opened =>
          set rest
          if c = '\x22' then parts n quoted stop done
          else if c = '(' then parts n quoted (.expression (opened + 1)) (.quoted c :: done)
          else if c = ')' then
            match opened with
            | 0 => if ← take? ")" then return done.reverse else failure
            | opened + 1 => parts n quoted (.expression opened) (.quoted c :: done)
          else parts n quoted stop (.quoted c :: done)

/-- The parts of a text that goes on with quotes or with a character. -/
def quotesOrLetter : Nat → Bool → Stop → List Part → Char → List Char → Reader (List Part)
  | 0, _, _, _, _, _ => failure
  | n + 1, quoted, stop, done, c, rest => do
    set rest
    if c = '\x22' then
      let inside ← parts n true .quote []
      parts n quoted stop ((Part.quotes :: inside).reverse ++ done)
    else if c = '\x27' && !quoted then
      parts n quoted stop ((← singleQuoted).reverse ++ done)
    else parts n quoted stop (letter quoted c :: done)

/-- What a dollar sign starts. -/
def dollar : Nat → Bool → Reader Part
  | 0, _ => failure
  | n + 1, quoted => do
    let expression : Reader Part := do
      unless ← take? "((" do failure
      return .arithmetic quoted (← parts n true (.expression 0) [])
    let output : Reader Part := do
      unless ← take? "(" do failure
      let script ← commands n false
      operator ")"
      return .output quoted script
    let opened := (← get).take 2
    if opened = ['(', '('] then
      if ← isExtended then expression <|> output else expression
    else if opened.head? = some '(' then output
    else if ← take? "\x7b" then braced n quoted
    else
      let name ← parameterName false
      return if name.isEmpty then letter quoted '$' else .parameter quoted name .value

/-- A parameter in braces. -/
def braced : Nat → Bool → Reader Part
  | 0, _ => failure
  | n + 1, quoted => do
    match measured (← get) with
    | some (name, after) =>
      set after
      return .parameter quoted name (if name.isEmpty then .malformed else .length)
    | none =>
      let counts ← signOfName? '#'
      let points ← signOfName? '!'
      let name ← parameterName true
      let index ← index? n name
      let rule ← if counts then lengthRule n quoted else ruleOf n quoted
      let rule := if points then .indirect rule else rule
      let rule := index.elim rule fun index => .element index rule
      return .parameter quoted name (if name.isEmpty then .malformed else rule)

/-- The rule for a parameter that is measured. -/
def lengthRule : Nat → Bool → Reader Rule
  | 0, _ => failure
  | n + 1, quoted => do if ← take? "\x7d" then return .length else malformed n quoted

/-- The index in brackets behind the name of a variable, if the language has such and one comes
    next. -/
def index? : Nat → String → Reader (Option (List Part))
  | 0, _ => failure
  | n + 1, name => do
    if !isName name then return none
    if ← extendedOnly (take? "[") then
      let index ← parts n false (.sign ']') []
      if ← take? "]" then return some index else failure
    else return none

/-- What is done with the parameter that was just named in braces. -/
def ruleOf : Nat → Bool → Reader Rule
  | 0, _ => failure
  | n + 1, quoted => do
    if ← take? "\x7d" then return .value
    else if ← take? "##" then return .trimStart true (← parts n false .brace [])
    else if ← take? "#" then return .trimStart false (← parts n false .brace [])
    else if ← take? "%%" then return .trimEnd true (← parts n false .brace [])
    else if ← take? "%" then return .trimEnd false (← parts n false .brace [])
    else
      let empty ← take? ":"
      if ← take? "-" then return .fallback empty (← parts n quoted .brace [])
      else if ← take? "=" then return .assign empty (← parts n quoted .brace [])
      else if ← take? "?" then return .complain empty (← parts n quoted .brace [])
      else if ← take? "+" then return .instead empty (← parts n quoted .brace [])
      else if !(← isExtended) then malformed n quoted
      else if empty then
        let first ← parts n true (.sign ':') []
        let length ← if ← take? ":" then some <$> parts n true (.sign '\x7d') [] else pure none
        if ← take? "\x7d" then return .slice first length else failure
      else if ← take? "/" then
        let extent ← extentOf
        let pattern ← parts n false (.sign '/') []
        let word ← if ← take? "/" then parts n false (.sign '\x7d') [] else pure []
        if ← take? "\x7d" then return .replace extent pattern word else failure
      else if ← take? "^" then
        let every ← take? "^"
        if ← take? "\x7d" then return .letterCase true every else malformed n quoted
      else if ← take? "," then
        let every ← take? ","
        if ← take? "\x7d" then return .letterCase false every else malformed n quoted
      else malformed n quoted

/-- A rule that is none, up to the closing brace. -/
def malformed : Nat → Bool → Reader Rule
  | 0, _ => failure
  | n + 1, quoted => do
    let _ ← parts n quoted .brace []
    return .malformed

/-- A word, which must come next. -/
def word : Nat → Reader (List Part)
  | 0 => failure
  | n + 1 => do
    if ← wordFollows then parts n false .word [] else failure

/-- The commands up to where a list ends. Unless there must be one, there may be none. -/
def commands : Nat → Bool → Reader (Option Command)
  | 0, _ => failure
  | n + 1, needed => do
    newlines n
    if !needed && (← closes) then return none
    moreCommands n none

/-- The commands of a list after those already read. -/
def moreCommands : Nat → Option Command → Reader (Option Command)
  | 0, _ => failure
  | n + 1, before => do
    let command ← logical n
    if ← operator? "&" then
      let all := inSequence before (.background command)
      newlines n
      if ← closes then return some all else moreCommands n (some all)
    else
      let all := inSequence before command
      let separated := (← operator? ";") || (← nextOperator?) = some "\n"
      if separated then
        newlines n
        if ← closes then return some all else moreCommands n (some all)
      else return some all

/-- Pipelines that run one after the other as long as they succeed or fail. -/
def logical : Nat → Reader Command
  | 0 => failure
  | n + 1 => do moreLogical n (← pipeline n)

/-- The pipelines after those already read. -/
def moreLogical : Nat → Command → Reader Command
  | 0, _ => failure
  | n + 1, first => do
    if ← operator? "&&" then
      newlines n
      moreLogical n (.conjunction first (← pipeline n))
    else if ← operator? "||" then
      newlines n
      moreLogical n (.disjunction first (← pipeline n))
    else return first

/-- A pipeline, which may be negated. In the extended language it may be negated again, and its time
    may be taken. -/
def pipeline : Nat → Reader Command
  | 0 => failure
  | n + 1 => do
    if ← extendedOnly (keyword? "time") then
      let _ ← keyword? "-p"
      if ← extendedOnly endsHere then return .simple [] [] []
    if ← keyword? "!" then
      if ← extendedOnly endsHere then return .negation (.simple [] [] [])
      else if (← nextWord) = "!" && (← isExtended) then return .negation (← pipeline n)
      else return .negation (← stages n)
    else stages n

/-- The stages of a pipeline, put together. -/
def stages : Nat → Reader Command
  | 0 => failure
  | n + 1 => do
    match ← stagesFrom n with
    | [single] => return single
    | all => return .pipeline all

/-- The stages of a pipeline. -/
def stagesFrom : Nat → Reader (List Command)
  | 0 => failure
  | n + 1 => do
    let stage ← command n
    if ← operator? "|" then
      newlines n
      return stage :: (← stagesFrom n)
    else if ← operator? "|&" then
      newlines n
      let both := [Redirection.mk 2 .duplicates [.quoted '1']]
      return .redirected stage both :: (← stagesFrom n)
    else return [stage]

/-- A command. -/
def command : Nat → Reader Command
  | 0 => failure
  | n + 1 => do
    match ← compound? n with
    | some command => return command
    | none =>
      if (["!", "in"] ++ closingWords).contains (← nextWord) then failure
      else simple n [] [] []

/-- A command that is more than a row of words, if one comes next. -/
def compound? : Nat → Reader (Option Command)
  | 0 => failure
  | n + 1 => do
    let expression ← expression? n
    if expression.isSome then return expression
    if ← operator? "(" then
      let body ← commands n true
      operator ")"
      redirections n (.subshell (body.getD default))
    else if ← keyword? "\x7b" then
      let body ← commands n true
      keyword "\x7d"
      redirections n (.group (body.getD default))
    else if ← keyword? "if" then redirections n (← choice n)
    else if ← keyword? "while" then redirections n (← loop n false)
    else if ← keyword? "until" then redirections n (← loop n true)
    else if ← keyword? "for" then redirections n (← each n)
    else if ← keyword? "case" then redirections n (← select n)
    else if !(← isExtended) then return none
    else if ← keyword? "[[" then
      let condition ← alternatives n
      keyword "]]"
      redirections n (.condition condition)
    else if ← keyword? "function" then
      let name ← nextWord
      if name.isEmpty then failure
      modify (List.drop name.length)
      if ← operator? "(" then operator ")"
      return some (← definition n name)
    else return none

/-- An expression between two parentheses, if the language has such and one comes next. -/
def expression? : Nat → Reader (Option Command)
  | 0 => failure
  | n + 1 => do
    blanks
    match ← isExtended, ← get with
    | true, '(' :: '(' :: rest =>
      let whole : Reader (Option Command) := do
        set rest
        let text ← parts n true (.expression 0) []
        redirections n (.expression text)
      whole <|> return none
    | _, _ => return none

/-- The definition of a function whose name has been read. -/
def definition : Nat → String → Reader Command
  | 0, _ => failure
  | n + 1, name => do
    newlines n
    match ← isExtended with
    | false => return .definition name (← command n)
    | true =>
      match ← compound? n with
      | some body => return .definition name body
      | none => failure

/-- A condition of which one of several parts may hold. -/
def alternatives : Nat → Reader Condition
  | 0 => failure
  | n + 1 => do
    let first ← joint n
    newlines n
    if ← operator? "||" then return .either first (← alternatives n) else return first

/-- A condition of which all parts must hold. -/
def joint : Nat → Reader Condition
  | 0 => failure
  | n + 1 => do
    newlines n
    let first ← singleCondition n
    newlines n
    if ← operator? "&&" then return .both first (← joint n) else return first

/-- A condition about one or two words, a negation, or a condition in parentheses. -/
def singleCondition : Nat → Reader Condition
  | 0 => failure
  | n + 1 => do
    if ← keyword? "!" then return .not (← singleCondition n)
    else if ← operator? "(" then
      let inside ← alternatives n
      operator ")"
      return inside
    else if (← nextWord) = "]]" then failure
    else
      let left ← word n
      let op ← nextWord
      if ← take? "<" then return .binary "<" left (← word n)
      else if ← take? ">" then return .binary ">" left (← word n)
      else if op = "=~" then
        keyword op
        blanks
        return .binary op left (← parts n false (.blank 0) [])
      else if conditionOperators.contains op then
        keyword op
        return .binary op left (← word n)
      else
        let sign := (plainName? left).getD ""
        if conditionSigns.contains sign then
          if op = "]]" then failure else return .unary sign (← word n)
        else return .unary "-n" left

/-- The rest of a choice, after its first word. -/
def choice : Nat → Reader Command
  | 0 => failure
  | n + 1 => do
    let test ← commands n true
    keyword "then"
    let yes ← commands n true
    let no ← do
      if ← keyword? "elif" then pure (some (← choice n))
      else if ← keyword? "else" then
        let no ← commands n true
        keyword "fi"
        pure no
      else
        keyword "fi"
        pure none
    return .choice (test.getD default) (yes.getD default) no

/-- The rest of a loop, after its first word. -/
def loop : Nat → Bool → Reader Command
  | 0, _ => failure
  | n + 1, inverted => do
    let test ← commands n true
    keyword "do"
    let body ← commands n true
    keyword "done"
    return .loop inverted (test.getD default) (body.getD default)

/-- The body of a loop. In the extended language it may be in braces. -/
def body : Nat → Reader Command
  | 0 => failure
  | n + 1 => do
    if ← extendedOnly (keyword? "\x7b") then
      let body ← commands n true
      keyword "\x7d"
      return body.getD default
    else
      keyword "do"
      let body ← commands n true
      keyword "done"
      return body.getD default

/-- The rest of a loop that counts, after its two opening parentheses. -/
def counting : Nat → Reader Command
  | 0 => failure
  | n + 1 => do
    match (← parts n true (.expression 0) []).splitOnP fun part => part matches Part.quoted ';' with
    | [start, test, step] =>
      let _ ← operator? ";"
      newlines n
      return .counting start test step (← body n)
    | _ => failure

/-- The rest of a loop over words, after its first word. -/
def each : Nat → Reader Command
  | 0 => failure
  | n + 1 => do
    blanks
    if ← extendedOnly (take? "((") then return ← counting n
    let name ← nextWord
    unless isName name || ((← isExtended) && !name.isEmpty) do failure
    modify (List.drop name.length)
    newlines n
    let words ← do
      if ← keyword? "in" then
        let words ← wordsFrom n
        unless (← operator? ";") || (← operator? "\n") do failure
        pure (some words)
      else
        let _ ← operator? ";"
        pure none
    newlines n
    return .each name words (← body n)

/-- Words up to the end of a line or a semicolon. -/
def wordsFrom : Nat → Reader (List (List Part))
  | 0 => failure
  | n + 1 => do
    if ← wordFollows then
      let words := (spread (← read) (← word n)).reverse
      return words ++ (← wordsFrom n)
    else return []

/-- The rest of a selection, after its first word. -/
def select : Nat → Reader Command
  | 0 => failure
  | n + 1 => do
    let subject ← word n
    newlines n
    keyword "in"
    newlines n
    return .select subject (← branches n)

/-- The branches of a selection, and the word after them. -/
def branches : Nat → Reader (List Branch)
  | 0 => failure
  | n + 1 => do
    if ← keyword? "esac" then return []
    let _ ← operator? "("
    let patterns ← patternsFrom n
    operator ")"
    let body ← commands n false
    if ← operator? ";;" then
      newlines n
      return .mk patterns body :: (← branches n)
    else
      newlines n
      keyword "esac"
      return [.mk patterns body]

/-- The patterns of a branch. -/
def patternsFrom : Nat → Reader (List (List Part))
  | 0 => failure
  | n + 1 => do
    let pattern ← word n
    if ← operator? "|" then return pattern :: (← patternsFrom n) else return [pattern]

/-- The redirections that come next, if some do: one, or two with one operator. -/
def redirection? : Nat → Reader (Option (List Redirection))
  | 0 => failure
  | n + 1 => do
    match ← redirectionStart? with
    | none => return none
    | some (descriptor, op) =>
      if ← redirectionFollows then failure
      if op = "<<" || op = "<<-" then document n descriptor (op = "<<-")
      else
        let target ← word n
        let input := descriptor.getD 0
        let out := descriptor.getD 1
        let made (descriptor : Nat) (direction : Direction) : Option (List Redirection) :=
          some [.mk descriptor direction target]
        let both (direction : Direction) : Option (List Redirection) :=
          some [.mk 1 direction target, .mk 2 .duplicates [.quoted '1']]
        let isPath := (plainName? target).any fun text =>
          text ≠ "-" && !text.toList.all Char.isDigit
        if op = ">&" && descriptor.isNone && isPath && (← isExtended) then
          return both (.writes false)
        match op with
        | "<<<" => return some [.mk input .document (target ++ [.quoted '\n'])]
        | "&>" => return both (.writes false)
        | "&>>" => return both .appends
        | "<" => return made input .reads
        | "<>" => return made input .both
        | "<&" => return made input .duplicates
        | ">" => return made out (.writes false)
        | ">|" => return made out (.writes true)
        | ">>" => return made out .appends
        | _ => return made out .duplicates

/-- A document that comes next, after its operator. Its lines follow the line that it stands in. -/
def document : Nat → Option Nat → Bool → Reader (Option (List Redirection))
  | 0, _, _ => failure
  | n + 1, descriptor, tabs => do
    blanks
    let cs ← get
    if (cs.head?.map endsWord).getD true then failure
    let (delimiter, quoted, cs) ← liftM (delimiter? (cs.length + 1) false [] cs)
    let (line, below) := restOfLine cs
    let (text, after) := documentLines cs.length tabs delimiter [] (below.drop 1)
    let body ← if quoted then pure (text.map .quoted)
      else apart (parts n true .document []) text
    set (if below.isEmpty then line else line ++ '\n' :: after)
    return some [.mk (descriptor.getD 0) .document body]

/-- A compound command with the redirections after it. -/
def redirections : Nat → Command → Reader (Option Command)
  | 0, _ => failure
  | n + 1, command => do
    let all ← redirectionsFrom n
    return some (if all.isEmpty then command else .redirected command all)

/-- The redirections that come next. -/
def redirectionsFrom : Nat → Reader (List Redirection)
  | 0 => failure
  | n + 1 => do
    match ← redirection? n with
    | some found => return found ++ (← redirectionsFrom n)
    | none => return []

/-- A simple command or a definition. What was read of it is given backwards. -/
def simple : Nat → List Assignment → List (List Part) → List Redirection → Reader Command
  | 0, _, _, _ => failure
  | n + 1, assignments, words, redirections => do
    match ← redirection? n with
    | some found => simple n assignments words (found.reverse ++ redirections)
    | none =>
      match ← get with
      | [] => simpleOf assignments words redirections
      | c :: _ =>
        if c = '(' && words.length = 1 && assignments.isEmpty && redirections.isEmpty then
          operator "("
          operator ")"
          let name := (plainName? (words.headD [])).getD ""
          let allowed := if ← isExtended then !name.isEmpty
            else isName name && !reservedNames.contains name
          if !allowed then failure
          definition n name
        else if !(← wordFollows) then simpleOf assignments words redirections
        else
          let word ← word n
          match ← assignment? word with
          | none => simple n assignments (spread (← read) word ++ words) redirections
          | some (name, index, value) =>
            let adds := match value with
              | [.parameter true _ _] => true
              | _ => false
            let mayBeRow := value.isEmpty || adds
            let isRow ← if mayBeRow then extendedOnly (take? "(") else pure false
            let declares := declaringNames.contains ((plainName? (words.getLastD [])).getD "")
            if isRow then
              let row : Assignment := .row name adds (← rowFrom n)
              if words.isEmpty then simple n (row :: assignments) words redirections
              else if declares then
                let before ← simple n assignments (name.toList.map .plain :: words) redirections
                return .sequence before (.simple [row] [] [])
              else failure
            else if words.isEmpty then
              simple n (.text name index value :: assignments) words redirections
            else
              let dialect ← read
              let new := if declares then [word] else spread dialect word
              simple n assignments (new ++ words) redirections

/-- The texts of a row up to the closing parenthesis. -/
def rowFrom : Nat → Reader (List (List Part))
  | 0 => failure
  | n + 1 => do
    newlines n
    if ← operator? ")" then return []
    else
      let words := (spread (← read) (← word n)).reverse
      return words ++ (← rowFrom n)

end

/-- The rest of a line after the commands already read, and whether the script ends with it. -/
def lineAfter : Nat → Option Command → Reader (Option Command × Bool)
  | 0, _ => failure
  | n + 1, before => do
    if ← operator? "\n" then return (before, false)
    else if ← atEnd then return (before, true)
    else
      let command ← logical n
      if ← operator? "&" then lineAfter n (some (inSequence before (.background command)))
      else
        let all := some (inSequence before command)
        if ← operator? ";" then lineAfter n all
        else if ← operator? "\n" then return (all, false)
        else if ← atEnd then return (all, true)
        else failure

/-- The fuel that reading a script takes. -/
def fuelFor (script : List Char) : Nat :=
  16 * script.length + 64

/-- The first line of a script, whether the script ends with it, and what is left. -/
def line? (dialect : Dialect) (script : List Char) :
    Option ((Option Command × Bool) × List Char) :=
  ((lineAfter (fuelFor script) none).run dialect).run script

end Reader

end FunctionHost.Rehearsal.Shell
