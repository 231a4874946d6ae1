-- SUMMARY: The options of a utility: letters after a dash and names after two, some with values.

/-! # Options

An option is a letter after a dash, or a name after two dashes, of which the start is enough if no
other name starts with it. Some options take a value, which is in the same word or in the next one;
for some it may be left out, and is in the same word then. A lone dash is no option, and two dashes
end the options. -/

namespace FunctionHost.Rehearsal.Shell

/-- Whether an option has a value. -/
inductive Valued where
  | never
  | perhaps
  | always
  deriving Repr, DecidableEq

/-- An option that a utility takes, with its letter and its name. -/
structure Switch where
  letter : Option Char
  name : String
  valued : Valued
  deriving Repr, DecidableEq

namespace Switch

/-- How a table writes whether an option has a value. -/
def sign? (c : Char) : Option Valued :=
  match c with
  | '-' => some .never
  | '~' => some .perhaps
  | '=' => some .always
  | _ => none

/-- The option that a word of a table describes: its letter, a sign and its name. -/
def ofWord (word : String) : Switch :=
  match word.toList with
  | c :: rest =>
    match sign? c, rest with
    | some valued, _ => ⟨none, String.ofList rest, valued⟩
    | none, d :: name => ⟨some c, String.ofList name, (sign? d).getD .never⟩
    | none, [] => ⟨some c, "", .never⟩
  | [] => ⟨none, "", .never⟩

/-- The options that every utility takes. -/
def common : List Switch :=
  [⟨none, "help", .never⟩, ⟨none, "version", .never⟩]

/-- An option that was given, with its value. -/
abbrev Given := Switch × Option String

/-- The options in letters after a dash, and the words left after them. -/
def ofLetters? (known : List Switch) (fuel : Nat) (letters : List Char) (words : List String) :
    Except String (List Given × List String) :=
  match fuel, letters with
  | _, [] => .ok ([], words)
  | 0, _ => .ok ([], words)
  | fuel + 1, c :: rest =>
    match known.find? (·.letter = some c) with
    | none => .error ("invalid option -- '" ++ String.ofList [c] ++ "'")
    | some switch =>
      match switch.valued, rest, words with
      | .never, _, _ => do
        let (given, words) ← ofLetters? known fuel rest words
        return ((switch, none) :: given, words)
      | .perhaps, _, _ =>
        .ok ([(switch, if rest.isEmpty then none else some (String.ofList rest))], words)
      | .always, _ :: _, _ => .ok ([(switch, some (String.ofList rest))], words)
      | .always, [], word :: words => .ok ([(switch, some word)], words)
      | .always, [], [] =>
        .error ("option requires an argument -- '" ++ String.ofList [c] ++ "'")

/-- The option with a name or with a start of one. -/
def named? (known : List Switch) (name : String) : Except String Switch :=
  match known.find? (·.name = name) with
  | some switch => .ok switch
  | none =>
    match known.filter fun switch => name.isPrefixOf switch.name with
    | [switch] => .ok switch
    | [] => .error ("unrecognized option '--" ++ name ++ "'")
    | _ => .error ("option '--" ++ name ++ "' is ambiguous")

/-- The option in a word after two dashes, and the words left after it. -/
def ofName? (known : List Switch) (text : List Char) (words : List String) :
    Except String (Given × List String) := do
  let name := String.ofList (text.takeWhile (· ≠ '='))
  let value := (text.dropWhile (· ≠ '=')).tail
  let hasValue := text.contains '='
  let switch ← named? known name
  match switch.valued, hasValue, words with
  | .never, true, _ => throw ("option '--" ++ name ++ "' doesn't allow an argument")
  | .always, false, word :: words => return ((switch, some word), words)
  | .always, false, [] => throw ("option '--" ++ name ++ "' requires an argument")
  | _, true, _ => return ((switch, some (String.ofList value)), words)
  | _, false, _ => return ((switch, none), words)

/-- Whether a word starts like a negative number. -/
def isNegative (word : String) : Bool :=
  match word.toList with
  | '-' :: c :: _ => c.isDigit || c = '.'
  | _ => false

/-- The options among words, and the other words. With `inOrder`, options end at the first other
    word, which with `negative` may be a negative number. A number after a dash is the value of the
    letter for numbers, if there is one. -/
def separate? (known : List Switch) (inOrder negative : Bool) (number : Option Char) (fuel : Nat)
    (words : List String) : Except String (List Given × List String) :=
  match fuel, words with
  | _, [] => .ok ([], [])
  | 0, _ => .ok ([], words)
  | fuel + 1, word :: rest =>
    if negative && isNegative word then .ok ([], word :: rest)
    else
      match word.toList with
      | ['-', '-'] => .ok ([], rest)
      | '-' :: '-' :: text => do
        let (first, rest) ← ofName? known text rest
        let (given, operands) ← separate? known inOrder negative number fuel rest
        return (first :: given, operands)
      | '-' :: c :: letters => do
        let numeric := (number.bind fun letter => known.find? (·.letter = some letter)).filter
          fun _ => (c :: letters).all Char.isDigit
        let (first, rest) ← match numeric with
          | some switch => pure ([(switch, some (String.ofList (c :: letters)))], rest)
          | none => ofLetters? known (letters.length + 1) (c :: letters) rest
        let (given, operands) ← separate? known inOrder negative number fuel rest
        return (first ++ given, operands)
      | _ => do
        if inOrder then return ([], word :: rest)
        let (given, operands) ← separate? known inOrder negative number fuel rest
        return (given, word :: operands)

/-- Whether an option was given that has a letter. -/
def has (given : List Given) (letter : Char) : Bool :=
  given.any (·.1.letter = some letter)

/-- Whether an option was given that has a name. -/
def hasNamed (given : List Given) (name : String) : Bool :=
  given.any (·.1.name = name)

/-- The values that were given for a letter, in order. -/
def valuesOf (given : List Given) (letter : Char) : List String :=
  given.filterMap fun (switch, value) => if switch.letter = some letter then value else none

/-- The last value that was given for a letter. -/
def value? (given : List Given) (letter : Char) : Option String :=
  (valuesOf given letter).getLast?

end Switch

end FunctionHost.Rehearsal.Shell
