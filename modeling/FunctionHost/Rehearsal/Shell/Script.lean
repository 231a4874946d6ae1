-- SUMMARY: Scripts of a command language: words with their expansions, and commands.

/-! # Scripts

A script is made of commands. A simple command has assignments, words and redirections. Commands
are put together in lists, pipelines, loops and choices. A word is a row of parts, in which every
character is known to be quoted or not, and expansions stand where their text will be. Scripts are
sequences of bytes, each of them a character below 256. -/

namespace FunctionHost.Rehearsal.Shell

/-- Which language a shell understands: the plain one or an extended one, in which fewer mistakes
    end a script. -/
inductive Dialect where
  | plain
  | extended
  deriving Repr, DecidableEq, Inhabited

/-- Which matches of a pattern are replaced: the first one, all of them, or only one at the start or
    at the end. -/
inductive Extent where
  | first
  | all
  | atStart
  | atEnd
  deriving Repr, DecidableEq

/-- What a redirection does with its target: read it, write it anew, write it at its end, read and
    write it, use another descriptor, or take the target itself as text. -/
inductive Direction where
  | reads
  | writes (force : Bool)
  | appends
  | both
  | duplicates
  | document
  deriving Repr, DecidableEq

mutual

/-- A part of a word. Quotes are kept, because a word with quotes never vanishes. A stream is a path
    from which the output of a script can be read. -/
inductive Part where
  | plain (c : Char)
  | quoted (c : Char)
  | quotes
  | parameter (quoted : Bool) (name : String) (rule : Rule)
  | output (quoted : Bool) (script : Option Command)
  | arithmetic (quoted : Bool) (expression : List Part)
  | stream (script : Option Command)

/-- What is done with the value of a parameter: taken as it is, measured, replaced when it is unset
    or when it is set, or trimmed at an end. With `empty`, an empty value counts as unset. In the
    extended language a part of the value may be taken, matches of a pattern may be replaced, and
    letters may change their case; and the parameter may be an element of an array, or one whose
    name is the value. -/
inductive Rule where
  | value
  | length
  | fallback (empty : Bool) (word : List Part)
  | assign (empty : Bool) (word : List Part)
  | complain (empty : Bool) (word : List Part)
  | instead (empty : Bool) (word : List Part)
  | trimStart (longest : Bool) (pattern : List Part)
  | trimEnd (longest : Bool) (pattern : List Part)
  | slice (first : List Part) (length : Option (List Part))
  | replace (extent : Extent) (pattern word : List Part)
  | letterCase (upper every : Bool)
  | element (index : List Part) (rule : Rule)
  | indirect (rule : Rule)
  | malformed

/-- What a variable gets: a text, which may be for an element of an array, or a row of texts, which
    may follow the elements that are there. -/
inductive Assignment where
  | text (name : String) (index : Option (List Part)) (value : List Part)
  | row (name : String) (adds : Bool) (values : List (List Part))

/-- A condition of the extended language. -/
inductive Condition where
  | unary (op : String) (operand : List Part)
  | binary (op : String) (left right : List Part)
  | not (a : Condition)
  | both (a b : Condition)
  | either (a b : Condition)

/-- A redirection of a descriptor. -/
inductive Redirection where
  | mk (descriptor : Nat) (direction : Direction) (target : List Part)

/-- A branch of a selection: patterns, and what is done when one of them matches. -/
inductive Branch where
  | mk (patterns : List (List Part)) (body : Option Command)

/-- A command. One that is `last` is the last thing that a shell does. -/
inductive Command where
  | simple (assignments : List Assignment) (words : List (List Part))
      (redirections : List Redirection)
  | last (command : Command)
  | pipeline (stages : List Command)
  | negation (command : Command)
  | conjunction (first second : Command)
  | disjunction (first second : Command)
  | sequence (first second : Command)
  | background (command : Command)
  | subshell (command : Command)
  | group (command : Command)
  | choice (test yes : Command) (no : Option Command)
  | loop (inverted : Bool) (test body : Command)
  | each (name : String) (words : Option (List (List Part))) (body : Command)
  | counting (start test step : List Part) (body : Command)
  | expression (text : List Part)
  | condition (condition : Condition)
  | select (word : List Part) (branches : List Branch)
  | definition (name : String) (body : Command)
  | redirected (command : Command) (redirections : List Redirection)

end

instance : Inhabited Command := ⟨.simple [] [] []⟩

/-- The name at the start of a row of characters: a letter or an underscore, and letters, digits
    and underscores after it. -/
def leadingName (cs : List Char) : List Char :=
  match cs with
  | c :: _ => if c.isDigit then [] else cs.takeWhile fun c => c.isAlphanum || c = '_'
  | [] => []

/-- Whether a text is the name of a variable. -/
def isName (text : String) : Bool :=
  !text.isEmpty && leadingName text.toList = text.toList

end FunctionHost.Rehearsal.Shell
