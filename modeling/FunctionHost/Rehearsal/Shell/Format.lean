-- SUMMARY: Formatted output: escapes, and directives that take arguments.
import FunctionHost.Rehearsal.Shell.Fraction

/-! # Formats

A format is written out as it is, apart from escapes, which start with a backslash, and directives,
which start with a percent sign and take arguments. A format is used again as long as there are
arguments left. An argument that is no number counts as the number at its start, and is reported.
Texts are sequences of bytes, each of them a character below 256. -/

namespace FunctionHost.Rehearsal.Shell.Format

/-- What was written so far, backwards, and whether an argument was no number, or all has ended. -/
structure Output where
  reversed : List Char
  flawed : Bool
  ended : Bool

namespace Output

/-- Before anything is written. -/
def blank : Output :=
  ⟨[], false, false⟩

/-- More text. -/
def add (o : Output) (cs : List Char) : Output :=
  { o with reversed := cs.reverse ++ o.reversed }

/-- The text that was written. -/
def text (o : Output) : List Char :=
  o.reversed.reverse

end Output

/-- The bytes of a character of any script. -/
def byteOf (n : Nat) : Char :=
  Char.ofNat (n % 256)

/-- The escapes with a letter. -/
def letters : List (Char × Char) :=
  [ ('a', '\x07'), ('b', '\x08'), ('f', '\x0c'), ('n', '\n'), ('r', '\x0d'), ('t', '\t'),
    ('v', '\x0b'), ('\\', '\\') ]

/-- The escapes with a letter that not all know. -/
def richLetters : List (Char × Char) :=
  letters ++ [('e', '\x1b'), ('E', '\x1b')]

/-- What an escape after its backslash stands for, if it is one, whether it ends all, and what
    follows it. With `zero`, numbers in base eight start with a zero that is not one of their three
    digits. With `rich` there are more escapes, among them numbers in base sixteen. -/
def escape (rich zero : Bool) (cs : List Char) : List Char × Bool × List Char :=
  match cs with
  | [] => (['\\'], false, [])
  | c :: rest =>
    let inBase16 := (rest.take 2).takeWhile (Numeral.isDigitIn 16)
    if rich && c = 'x' && !inBase16.isEmpty then
      ([byteOf (Numeral.ofDigits 16 inBase16)], false, rest.drop inBase16.length)
    else
      match (if rich then richLetters else letters).lookup c with
      | some d => ([d], false, rest)
      | none =>
        if c = 'c' && zero then ([], true, [])
        else if Numeral.isDigitIn 8 c && (!zero || c = '0') then
          let start := if zero then rest else cs
          let digits := (start.take 3).takeWhile (Numeral.isDigitIn 8)
          ([byteOf (Numeral.ofDigits 8 digits)], false, start.drop digits.length)
        else if rich && !zero && (c = '\x22' || c = '\x27') then ([c], false, rest)
        else (['\\', c], false, rest)

/-- A text with its escapes replaced, and whether one of them ended it. -/
def unescape (rich zero : Bool) (fuel : Nat) (done : List Char) (cs : List Char) :
    List Char × Bool :=
  match fuel with
  | 0 => (done.reverse, false)
  | fuel + 1 =>
    match cs with
    | [] => (done.reverse, false)
    | '\\' :: rest =>
      let (text, ended, after) := escape rich zero rest
      if ended then (done.reverse, true)
      else unescape rich zero fuel (text.reverse ++ done) after
    | c :: rest => unescape rich zero fuel (c :: done) rest

/-- Words with spaces between them and a line feed at the end, with their escapes replaced. A first
    word `-n` leaves out the line feed. -/
def echo (words : List String) : List Char :=
  let (bare, words) := match words with
    | "-n" :: rest => (true, rest)
    | _ => (false, words)
  let text := (String.intercalate " " words).toList
  let (out, ended) := unescape false true (text.length + 1) [] text
  if bare || ended then out else out ++ ['\n']

/-- Words with spaces between them. Options in front of them tell whether a line feed is at the end,
    and whether their escapes are replaced. -/
def echoWithOptions (words : List String) : List Char :=
  let isOption (word : String) : Bool :=
    word.length > 1 && word.front = '-' && (word.toList.drop 1).all fun c => "neE".contains c
  let options := words.takeWhile isOption
  let letters := options.flatMap fun word => word.toList.drop 1
  let text := (String.intercalate " " (words.drop options.length)).toList
  let ending := if letters.contains 'n' then [] else ['\n']
  if (letters.filter (· ≠ 'n')).getLast? ≠ some 'e' then text ++ ending
  else
    let (text, ended) := unescape true true (text.length + 1) [] text
    if ended then text else text ++ ending

/-- A number in a base, with digits in a letter case. -/
def digitsIn (base : Nat) (upper : Bool) (n : Nat) : List Char :=
  (Nat.toDigits base n).map fun c => if upper then c.toUpper else c

/-- The number that an argument stands for, and whether it is one. A quote in front of a character
    asks for its code. -/
def numberOf (argument : String) : Int × Bool :=
  match argument.toList with
  | [] => (0, true)
  | '\x27' :: c :: _ => (c.toNat, true)
  | '\x22' :: c :: _ => (c.toNat, true)
  | cs =>
    match Numeral.parse? true argument with
    | some n => (n, cs.getLast?.all fun c => !Numeral.isSpace c)
    | none =>
      let signed := cs.dropWhile Numeral.isSpace
      let (negative, unsigned) :=
        match signed with
        | '-' :: rest => (true, rest)
        | '+' :: rest => (false, rest)
        | _ => (false, signed)
      let (base, digits) := Numeral.based unsigned
      let n : Int := Numeral.ofDigits base (digits.takeWhile (Numeral.isDigitIn base))
      (if negative then -n else n, false)

/-- How a directive wants its text: flags, a width and a precision. -/
structure Shape where
  left : Bool
  zeros : Bool
  plus : Bool
  space : Bool
  marked : Bool
  width : Nat
  precision : Option Nat

/-- A text in its width. -/
def Shape.pad (s : Shape) (cs : List Char) : List Char :=
  let room := List.replicate (s.width - cs.length) ' '
  if s.left then cs ++ room else room ++ cs

/-- A number in its width: a sign or another mark, and digits, with zeros between them. -/
def Shape.padNumber (s : Shape) (mark digits : List Char) : List Char :=
  let least := List.replicate (s.precision.getD 1 - digits.length) '0' ++ digits
  let digits := if s.precision = some 0 && digits = ['0'] then [] else least
  if s.zeros && !s.left && s.precision.isNone then
    mark ++ List.replicate (s.width - mark.length - digits.length) '0' ++ digits
  else s.pad (mark ++ digits)

/-- The flags at the start of a directive. -/
def flags (cs : List Char) : List Char × List Char :=
  (cs.takeWhile fun c => "-+ #0".contains c, cs.dropWhile fun c => "-+ #0".contains c)

/-- A width or a precision: digits, or an asterisk that takes an argument. -/
def measure (cs : List Char) (arguments : List String) : Int × List Char × List String :=
  match cs with
  | '*' :: rest => ((numberOf (arguments.headD "")).1, rest, arguments.tail)
  | _ =>
    let digits := cs.takeWhile Char.isDigit
    (Numeral.ofDigits 10 digits, cs.drop digits.length, arguments)

/-- The text of a directive with a letter for an argument, whether the argument was flawed, and
    whether all ends with it. -/
def directive? (rich : Bool) (shape : Shape) (kind : Char) (argument : String) :
    Option (List Char × Bool × Bool) :=
  let cut (cs : List Char) : List Char :=
    match shape.precision with
    | some n => cs.take n
    | none => cs
  let (n, fine) := numberOf argument
  let unsigned := (if n < 0 then n + Numeral.size else n).toNat
  let based (base : Nat) (upper : Bool) (mark : List Char) : Option (List Char × Bool × Bool) :=
    let mark := if shape.marked && unsigned ≠ 0 then mark else []
    some (shape.padNumber mark (digitsIn base upper unsigned), !fine, false)
  match kind with
  | 's' => some (shape.pad (cut argument.toList), false, false)
  | 'b' =>
    let (text, ended) := unescape rich true (argument.length + 1) [] argument.toList
    some (shape.pad (cut text), false, ended)
  | 'q' => if rich then some (shape.pad argument.toList, false, false) else none
  | 'c' => some (shape.pad (argument.toList.take 1), false, false)
  | 'd' => some (signed n fine)
  | 'i' => some (signed n fine)
  | 'u' => some (shape.padNumber [] (digitsIn 10 false unsigned), !fine, false)
  | 'o' => based 8 false ['0']
  | 'x' => based 16 false ['0', 'x']
  | 'X' => based 16 true ['0', 'X']
  | _ => if "aAeEfFgG".contains kind then some (fraction argument.toList) else none
where
  /-- A number with a fraction. -/
  fraction (cs : List Char) : List Char × Bool × Bool :=
    let (x, rest) : Number.Binary64 × List Char := match cs with
      | '\x27' :: c :: _ => (.ofNat c.toNat, [])
      | '\x22' :: c :: _ => (.ofNat c.toNat, [])
      | _ => Fraction.read cs
    let (negative, digits) := Fraction.text kind shape.marked (shape.precision.getD 6) x
    let mark := if negative then ['-'] else if shape.plus then ['+']
      else if shape.space then [' '] else []
    let isNumber := digits.any Char.isDigit
    let shape := { shape with precision := none, zeros := shape.zeros && isNumber }
    (if isNumber then shape.padNumber mark digits else shape.pad (mark ++ digits),
      !rest.isEmpty, false)
  /-- A number with its sign. -/
  signed (n : Int) (fine : Bool) : List Char × Bool × Bool :=
    let mark := if n < 0 then ['-'] else if shape.plus then ['+']
      else if shape.space then [' '] else []
    (shape.padNumber mark (digitsIn 10 false n.natAbs), !fine, false)

/-- A format carried out once: what is written, the arguments that are left, and none if there is an
    unknown directive. -/
def once? (rich : Bool) (fuel : Nat) (o : Output) (cs : List Char) (arguments : List String) :
    Option (Output × List String) :=
  match fuel with
  | 0 => some (o, arguments)
  | fuel + 1 =>
    match cs with
    | [] => some (o, arguments)
    | '\\' :: rest =>
      let (text, _, after) := escape rich false rest
      once? rich fuel (o.add text) after arguments
    | '%' :: '%' :: rest => once? rich fuel (o.add ['%']) rest arguments
    | '%' :: rest =>
      let (marks, rest) := flags rest
      let (width, rest, arguments) := measure rest arguments
      let (precision, rest, arguments) : Option Nat × List Char × List String :=
        match rest with
        | '.' :: rest =>
          let (p, rest, arguments) := measure rest arguments
          (if p < 0 then none else some p.toNat, rest, arguments)
        | _ => (none, rest, arguments)
      let shape : Shape := {
        left := marks.contains '-' || width < 0
        zeros := marks.contains '0'
        plus := marks.contains '+'
        space := marks.contains ' '
        marked := marks.contains '#'
        width := width.natAbs
        precision }
      match rest with
      | [] => none
      | kind :: rest => do
        let (text, flawed, ended) ← directive? rich shape kind (arguments.headD "")
        let o := { o.add text with flawed := o.flawed || flawed, ended }
        if ended then return (o, [])
        once? rich fuel o rest arguments.tail
    | c :: rest => once? rich fuel (o.add [c]) rest arguments

/-- A format carried out as often as there are arguments for it, once at least. -/
def repeated? (rich : Bool) (fuel : Nat) (o : Output) (format : List Char)
    (arguments : List String) : Option Output :=
  match fuel with
  | 0 => some o
  | fuel + 1 => do
    let (o, left) ← once? rich (format.length + 1) o format arguments
    if o.ended || left.isEmpty || left.length = arguments.length then return o
    repeated? rich fuel o format left

/-- What a format writes for arguments, and the status: flawed arguments and unknown directives
    fail. -/
def print (rich : Bool) (format : String) (arguments : List String) : List Char × Nat :=
  match repeated? rich (arguments.length + 1) .blank format.toList arguments with
  | some o => (o.text, if o.flawed then 1 else 0)
  | none => ([], 2)

end FunctionHost.Rehearsal.Shell.Format
