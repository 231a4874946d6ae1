-- SUMMARY: Utilities that show, cut, order and compare texts.
import FunctionHost.Base64
import FunctionHost.Rehearsal.Shell.Format
import FunctionHost.Rehearsal.Shell.Pattern
import FunctionHost.Rehearsal.Shell.Utility.Request

/-! # Texts

These utilities read files or their input, and write what becomes of it. Texts are sequences of
bytes, each of them a character below 256. -/

namespace FunctionHost.Rehearsal.Shell.Request

/-- A number in some columns, with blanks before it. -/
def inColumns (width n : Nat) : List Char :=
  (toString n).toList.leftpad width ' '

/-- Lines with numbers before them, either before all of them or before those that are not empty. -/
def numbered (all : Bool) (width : Nat) (separator : List Char) (lines : List (List Char)) :
    List (List Char) :=
  (lines.foldl (fun (done, n) line =>
    if all || !line.isEmpty then ((inColumns width n ++ separator ++ line) :: done, n + 1)
    else (line :: done, n)) (([] : List (List Char)), 1)).1.reverse

/-- What files hold, one after the other. -/
def cat (r : Request) : Answer :=
  let (read, complaints) := r.contents r.operands
  let text := read.flatMap Prod.snd
  let numbers := r.has 'n' || r.has 'b'
  let marks := r.has 'E' || r.has 'A' || r.has 'e'
  let tabs := r.has 'T' || r.has 'A' || r.has 't'
  if numbers || marks || tabs || r.has 's' then
    let ended := text.getLast? = some '\n'
    let lines := linesOf text
    let lines := if r.has 's' then
        (lines.zip ([] :: lines.map id)).zipIdx.filterMap fun ((line, before), i) =>
          if line.isEmpty && before.isEmpty && i ≠ 0 then none else some line
      else lines
    let lines := if tabs then lines.map (·.flatMap fun c => if c = '\t' then ['^', 'I'] else [c])
      else lines
    let lines := if marks then
        lines.zipIdx.map fun (line, i) =>
          if ended || i + 1 < lines.length then line ++ ['$'] else line
      else lines
    let lines := if numbers then numbered (!r.has 'b') 6 ['\t'] lines else lines
    let output := textOf lines
    r.withComplaints (if ended then output else output.dropLast) complaints
  else r.withComplaints text complaints

/-- The words of a text. -/
def wordsOf (cs : List Char) : List (List Char) :=
  (cs.map (fun c => if Numeral.isSpace c then ' ' else c)).splitOn ' ' |>.filter (!·.isEmpty)

/-- Counts lines, words and bytes, in columns that are wide enough for all of them. -/
def wc (r : Request) : Answer :=
  let plain := !(r.has 'l' || r.has 'w' || r.has 'c' || r.has 'm' || r.has 'L')
  let (read, complaints) := r.contents r.operands
  let counts (cs : List Char) : List Nat :=
    (if plain || r.has 'l' then [cs.count '\n'] else [])
      ++ (if plain || r.has 'w' then [(wordsOf cs).length] else [])
      ++ (if r.has 'm' then [cs.length] else [])
      ++ (if plain || r.has 'c' then [cs.length] else [])
      ++ (if r.has 'L' then [((linesOf cs).map List.length).foldl max 0] else [])
  let bytes := read.foldl (fun size (_, cs) => size + cs.length) 0
  let width :=
    if (counts []).length = 1 && r.operands.length ≤ 1 then 1
    else if r.operands.isEmpty || r.operands.contains "-" then 7
    else (toString bytes).length
  let line (path : String) (cs : List Char) : List Char :=
    let numbers := [' '].intercalate ((counts cs).map (inColumns width))
    numbers ++ (if path.isEmpty then [] else ' ' :: path.toList) ++ ['\n']
  let total := if r.operands.length > 1 then line "total" (read.flatMap Prod.snd) else []
  r.withComplaints ((read.flatMap fun (path, cs) => line path cs) ++ total) complaints

/-- A number with a letter for its size behind it. -/
def sizeOf? (text : String) : Option Nat :=
  let cs := text.toList
  let digits := cs.takeWhile Char.isDigit
  let unit? : Option Nat :=
    match cs.drop digits.length with
    | [] => some 1
    | ['b'] => some 512
    | ['k'] => some 1024
    | ['K'] => some 1024
    | ['k', 'B'] => some 1000
    | ['M'] => some 1048576
    | ['G'] => some 1073741824
    | _ => none
  if digits.isEmpty then none else unit?.map (Numeral.ofDigits 10 digits * ·)

/-- The part of every text that a number of lines or bytes asks for, with a heading for each if
    there are several. The function gets the sign of the number, the number and a list. -/
def part (r : Request) (choose : {α : Type} → Option Char → Nat → List α → List α) : Answer :=
  let text := ((r.value? 'c').or (r.value? 'n')).getD "10"
  let sign := match text.toList.head? with
    | some '-' => some '-'
    | some '+' => some '+'
    | _ => none
  match sizeOf? (if sign.isSome then String.ofList (text.toList.drop 1) else text) with
  | none => r.refuse ("invalid number: '" ++ text ++ "'")
  | some n =>
    let (read, complaints) := r.contents r.operands
    let pick (cs : List Char) : List Char :=
      if (r.value? 'c').isSome then choose sign n cs
      else
        let lines := choose sign n (linesOf cs)
        let ended := cs.getLast? = some '\n' || lines.getLast? ≠ (linesOf cs).getLast?
        if ended then textOf lines else (textOf lines).dropLast
    let headed := (r.operands.length > 1 || r.has 'v') && !r.has 'q' && !r.hasNamed "silent"
    let output := read.zipIdx.flatMap fun ((path, cs), i) =>
      let heading := (if i = 0 then "" else "\n") ++ "==> " ++ path ++ " <==\n"
      if headed then heading.toList ++ pick cs else pick cs
    r.withComplaints output complaints

/-- The start of a text, or all but its end. -/
def head (r : Request) : Answer :=
  r.part fun sign n xs => if sign = some '-' then xs.take (xs.length - n) else xs.take n

/-- The end of a text, or all from a place on. A lone first word may tell the place. -/
def tail (r : Request) : Answer :=
  let isCount (word : String) : Bool :=
    word.length > 1 && word.front = '+' && (word.toList.drop 1).all Char.isDigit
  let r : Request :=
    match r.given, r.operands with
    | [], word :: rest =>
      if isCount word then
        { r with given := [(⟨some 'n', "lines", .always⟩, some word)], operands := rest }
      else r
    | _, _ => r
  r.part fun sign n xs => if sign = some '+' then xs.drop (n - 1) else xs.drop (xs.length - n)

/-! ## Characters -/

/-- The characters that a set of them names, with ranges and repetitions, or none if a range goes
    backwards. -/
def charSet? (fuel : Nat) (cs : List Char) : Option (List Char) :=
  match fuel with
  | 0 => some []
  | fuel + 1 =>
    let single : Option (Char × List Char) :=
      match cs with
      | [] => none
      | '\\' :: rest =>
        match Format.escape false false rest with
        | ([c], _, after) => some (c, after)
        | (_, _, _) => some ((rest.head?).getD '\\', rest.tail)
      | c :: rest => some (c, rest)
    match cs with
    | '[' :: ':' :: rest =>
      let name := String.ofList (rest.takeWhile (· ≠ ':'))
      match Pattern.classes.lookup name with
      | some ranges => do
        let more ← charSet? fuel (rest.drop (name.length + 2))
        return ranges.flatMap (fun (a, b) => interval a b) ++ more
      | none => (charSet? fuel (':' :: rest)).map ('[' :: ·)
    | '[' :: c :: '*' :: ']' :: rest =>
      (charSet? fuel rest).map (List.replicate 256 c ++ ·)
    | _ =>
      match single with
      | none => some []
      | some (a, '-' :: b :: rest) =>
        if b.toNat < a.toNat then none else (charSet? fuel rest).map (interval a b ++ ·)
      | some (a, rest) => (charSet? fuel rest).map (a :: ·)
where
  /-- The characters from one to another. -/
  interval (a b : Char) : List Char :=
    (List.range (b.toNat + 1 - a.toNat)).map fun i => Char.ofNat (a.toNat + i)

/-- A text without repetitions of characters in a set. -/
def squeeze (set : List Char) : List Char → List Char
  | a :: b :: rest =>
    if a = b && set.contains a then squeeze set (b :: rest) else a :: squeeze set (b :: rest)
  | cs => cs

/-- Replaces or deletes characters of the input. -/
def tr (r : Request) : Answer :=
  let deletes := r.has 'd'
  let squeezes := r.has 's'
  let others := r.has 'c' || r.has 'C'
  let inFirst (first : List Char) (c : Char) : Bool := first.contains c != others
  let squeezed (set cs : List Char) : List Char := if squeezes then squeeze set cs else cs
  let complement (set : List Char) : List Char :=
    if others then ((List.range 256).map Char.ofNat).filter (!set.contains ·) else set
  match r.operands.mapM fun set => charSet? (set.length + 1) set.toList with
  | none => r.refuse "range-endpoints are in reverse collating sequence order"
  | some sets =>
    match deletes, squeezes, sets with
    | true, true, [first, second] =>
      r.answer (squeeze second (r.input.filter fun c => !inFirst first c)) 0
    | true, false, [first] => r.answer (r.input.filter fun c => !inFirst first c) 0
    | false, true, [first] => r.answer (squeeze (complement first) r.input) 0
    | false, _, [first, second] =>
      let ordered := complement first
      let change (c : Char) : Char :=
        match ordered.idxOf? c with
        | some i => (second[i]?).getD (second.getLast?.getD c)
        | none => c
      if second.isEmpty && !r.has 't' then r.refuse "string2 must be non-empty"
      else r.answer (squeezed second (r.input.map change)) 0
    | _, _, _ => r.refuse "wrong number of operands"

/-! ## Parts of lines -/

/-- The positions that a list of them names, each with its first and its last one. -/
def positions? (list : String) : Option (List (Nat × Option Nat)) :=
  ((list.replace " " ",").splitOn ",").mapM fun part =>
    match (part.splitOn "-").map fun word => (word.isEmpty, word.toNat?) with
    | [(_, some n)] => if n = 0 then none else some (n, some n)
    | [(true, _), (_, some n)] => if n = 0 then none else some (1, some n)
    | [(_, some n), (true, _)] => if n = 0 then none else some (n, none)
    | [(_, some n), (_, some m)] => if n = 0 || m < n then none else some (n, some m)
    | _ => none

/-- Some of the characters or fields of every line. -/
def cut (r : Request) : Answer :=
  let lists := ['b', 'c', 'f'].filterMap fun letter =>
    (r.value? letter).map fun list => (letter, list)
  match lists, (r.value? 'd').map String.toList with
  | [(letter, list)], delimiter =>
    let d := ((delimiter.getD ['\t']).head?).getD '\x00'
    if delimiter.any fun cs => cs.length > 1 || letter ≠ 'f' then
      r.refuse "the delimiter must be a single character"
    else
      match positions? list with
      | none => r.refuse "invalid field value"
      | some wanted =>
        let listed (i : Nat) : Bool :=
          (wanted.any fun (first, last) => first ≤ i && last.all (i ≤ ·))
            != r.hasNamed "complement"
        let pick {α : Type} (xs : List α) : List α :=
          (xs.zipIdx.filter fun (_, i) => listed (i + 1)).map Prod.fst
        let between := ((r.valueNamed? "output-delimiter").map String.toList).getD [d]
        r.throughLines fun all =>
          if letter = 'f' then
            (if r.has 's' then all.filter (·.contains d) else all).map fun line =>
              if line.contains d then between.intercalate (pick (line.splitOn d)) else line
          else all.map pick
  | _, _ => r.refuse "you must specify a list of bytes, characters, or fields"

/-- Every line in pieces of so many characters. -/
def fold (r : Request) : Answer :=
  match ((r.value? 'w').getD "80").toNat? with
  | none => r.refuse "invalid number of columns"
  | some 0 => r.refuse "invalid number of columns"
  | some width =>
    r.throughLines fun all => all.flatMap fun line =>
      if line.isEmpty then [[]]
      else (List.range ((line.length + width - 1) / width)).map fun i =>
        (line.drop (i * width)).take width

/-- The lines of several files side by side, or those of each file in one line. -/
def paste (r : Request) : Answer :=
  let (read, complaints) := r.contents r.operands
  let texts := read.map fun (_, text) => linesOf text
  let marks := Format.unescape false false 256 [] (((r.value? 'd').getD "\t").toList)
  let mark (i : Nat) : List Char := ((marks.1[i % max marks.1.length 1]?).map ([·])).getD []
  let joined (parts : List (List Char)) : List Char :=
    (parts.zipIdx.map fun (part, i) => if i = 0 then part else mark (i - 1) ++ part).flatten
  let rows := (texts.map List.length).foldl max 0
  let lines :=
    if r.has 's' then texts.map joined
    else (List.range rows).map fun i => joined (texts.map fun text => (text[i]?).getD [])
  r.withComplaints (textOf lines) complaints

/-- The lines that are not empty with their numbers. -/
def nl (r : Request) : Answer :=
  let all := (r.value? 'b').any (·.startsWith "a")
  let separator := ((r.value? 's').getD "\t").toList
  let width := (((r.value? 'w').bind String.toNat?)).getD 6
  r.throughLines fun lines =>
    (numbered all width separator lines).map fun line =>
      if line.isEmpty then List.replicate (width + separator.length) ' ' else line

/-- The input as letters of base 64, in lines, or what such letters stand for. -/
def base64 (r : Request) : Answer :=
  let (read, complaints) := r.contents r.operands
  let text := read.flatMap Prod.snd
  if r.has 'd' then
    match Base64.decode? (text.filter (· ≠ '\n')) with
    | some bytes => r.withComplaints (bytes.map fun b => Char.ofNat b.toNat) complaints
    | none => r.refuse "invalid input"
  else
    match ((r.value? 'w').getD "76").toNat? with
    | none => r.refuse "invalid wrap size"
    | some width =>
      let letters := Base64.encode (text.map fun c => UInt8.ofNat c.toNat)
      let lines := if width = 0 then [letters] else
        (List.range ((letters.length + width - 1) / width)).map fun i =>
          (letters.drop (i * width)).take width
      r.withComplaints (if width = 0 then letters else textOf lines) complaints

/-! ## Order -/

/-- A key of a line: from a field on, up to a field, and as a number, and backwards. -/
structure Key where
  first : Nat
  last : Option Nat
  numeric : Bool
  backwards : Bool

/-- The key that a text describes. -/
def Key.parse? (text : String) : Option Key :=
  let field (part : String) : Option Nat :=
    (String.ofList (part.toList.takeWhile Char.isDigit)).toNat?
  match text.splitOn "," with
  | [first] => do return ⟨← field first, none, first.contains 'n', first.contains 'r'⟩
  | [first, last] => do
    return ⟨← field first, ← (field last).map some, text.contains 'n', text.contains 'r'⟩
  | _ => none

/-- The fields of a line, with the blanks before them if nothing separates them. -/
def fieldsOf (separator : Option Char) (line : List Char) : List (List Char) :=
  match separator with
  | some c => line.splitOn c
  | none =>
    let isBlank (c : Char) : Bool := c = ' ' || c = '\t'
    (line.foldr (fun c fields =>
      match fields with
      | (d :: field) :: rest =>
        if !isBlank c && isBlank d then [c] :: (d :: field) :: rest
        else (c :: d :: field) :: rest
      | [] :: rest => [c] :: rest
      | [] => [[c]]) [])

/-- The number at the start of a text. -/
def numberAt (cs : List Char) : Int :=
  (Format.numberOf (String.ofList (cs.dropWhile Numeral.isSpace))).1

/-- How two lines compare. -/
def compareLines (r : Request) (keys : List Key) (a b : List Char) : Ordering :=
  let prepare (cs : List Char) : List Char :=
    let cs := if r.has 'b' then cs.dropWhile Numeral.isSpace else cs
    if r.has 'f' then cs.map Char.toUpper else cs
  let texts (a b : List Char) : Ordering :=
    compare (String.ofList (prepare a)) (String.ofList (prepare b))
  let numbers (a b : List Char) : Ordering := compare (numberAt a) (numberAt b)
  let isNumeric := r.has 'n' || r.has 'g' || r.has 'h'
  let turned (backwards : Bool) (o : Ordering) : Ordering := if backwards then o.swap else o
  let separator := (r.value? 't').bind fun t => t.toList.head?
  let part (key : Key) (line : List Char) : List Char :=
    let fields := (fieldsOf separator line).drop (key.first - 1)
    let fields := match key.last with
      | some last => fields.take (last + 1 - key.first)
      | none => fields
    (match separator with
      | some c => [c].intercalate fields
      | none => fields.flatten)
  let byKeys := keys.foldl (fun o key =>
    match o with
    | .eq =>
      let x := part key a
      let y := part key b
      turned (key.backwards != (r.has 'r'))
        (if key.numeric || isNumeric then numbers x y else texts x y)
    | o => o) .eq
  let whole := turned (r.has 'r') (if isNumeric then numbers a b else texts a b)
  let o := if keys.isEmpty then whole else byKeys
  if o = .eq && !r.has 's' && !r.has 'u' then
    turned (r.has 'r') (compare (String.ofList a) (String.ofList b))
  else o

/-- The lines of all texts in order, or whether they already are. -/
def sort (r : Request) : Answer :=
  match (r.valuesOf 'k').mapM Key.parse? with
  | none => r.refuse "invalid field specification"
  | some keys =>
    let order := r.compareLines keys
    let inOrder (a b : List Char) : Bool := order a b != .gt
    let (read, complaints) := r.contents r.operands
    let all := read.flatMap fun (_, text) => linesOf text
    if r.has 'c' || r.has 'C' || r.hasNamed "check" then
      let disordered := (all.zip all.tail).any fun (a, b) =>
        if r.has 'u' then order a b != .lt else order a b = .gt
      if disordered then r.complain 1 "disorder" else r.withComplaints [] complaints
    else
      let ordered := all.mergeSort inOrder
      let kept := if r.has 'u' then
          ordered.foldr (fun line rest =>
            match rest with
            | next :: others =>
              if order line next = .eq then line :: others else line :: rest
            | [] => [line]) []
        else ordered
      match r.value? 'o' with
      | none => r.withComplaints (textOf kept) complaints
      | some path =>
        match r.tree.forWriting r.here path with
        | .ok (place, _) =>
          { r.withComplaints [] complaints with
            tree := r.tree.put place (.file (textOf kept) false) }
        | .error fault => r.refuse (path ++ ": " ++ fault.name)

/-- Lines in any order, of which this is the given one: those of a text, words or numbers. -/
def shuf (r : Request) : Answer :=
  let most := ((r.value? 'n').bind String.toNat?)
  let few (lines : List (List Char)) : List (List Char) := most.elim lines (lines.take ·)
  if (r.value? 'n').isSome && most.isNone then r.refuse "invalid line count"
  else if r.has 'e' then r.answer (textOf (few (r.operands.map String.toList))) 0
  else
    match r.value? 'i' with
    | none =>
      if r.operands.length > 1 then r.refuse "extra operand" else r.throughLines few
    | some range =>
      match (range.splitOn "-").map String.toNat? with
      | [some first, some last] =>
        let numbers := (List.range (last + 1 - first)).map fun i => (toString (first + i)).toList
        if last + 1 < first || !r.operands.isEmpty then r.refuse "invalid input range"
        else r.answer (textOf (few numbers)) 0
      | _ => r.refuse "invalid input range"

/-- Lines that are next to each other and equal in some respect, as groups. -/
def groups (key : List Char → List Char) (all : List (List Char)) : List (List Char × Nat) :=
  (all.foldl (fun groups line =>
    match groups with
    | (last, n) :: rest =>
      if key last = key line then (last, n + 1) :: rest else (line, 1) :: groups
    | [] => [(line, 1)]) []).reverse

/-- Lines without repetitions next to each other. -/
def uniq (r : Request) : Answer :=
  let number (letter : Char) : Nat := ((r.value? letter).bind String.toNat?).getD 0
  let key (line : List Char) : List Char :=
    let cs := ((fieldsOf none line).drop (number 'f')).flatten.drop (number 's')
    let cs := if (r.value? 'w').isSome then cs.take (number 'w') else cs
    if r.has 'i' then cs.map Char.toLower else cs
  let reader : Request := { r with operands := r.operands.take 1 }
  reader.throughLines fun all =>
    let kept : List (List Char × Nat) := (groups key all).filter fun group =>
      (!r.has 'd' || group.2 > 1) && (!r.has 'u' || group.2 = 1)
    kept.map fun (line, n) => if r.has 'c' then inColumns 7 n ++ ' ' :: line else line

/-! ## Comparisons -/

/-- The lines of two texts in order, with a number for each: of the first only, of the second only,
    or of both. -/
def merged (fuel : Nat) (a b : List (List Char)) : List (Nat × List Char) :=
  match fuel with
  | 0 => []
  | fuel + 1 =>
    match a, b with
    | [], [] => []
    | x :: a, [] => (1, x) :: merged fuel a []
    | [], y :: b => (2, y) :: merged fuel [] b
    | x :: a, y :: b =>
      match compare (String.ofList x) (String.ofList y) with
      | .lt => (1, x) :: merged fuel a (y :: b)
      | .gt => (2, y) :: merged fuel (x :: a) b
      | .eq => (3, x) :: merged fuel a b

/-- The lines of two texts in order, in a column for each kind. -/
def comm (r : Request) : Answer :=
  let (read, complaints) := r.contents r.operands
  match read with
  | [(_, first), (_, second)] =>
    let a := linesOf first
    let b := linesOf second
    let hidden (n : Nat) : Bool := r.has (Char.ofNat ('0'.toNat + n))
    let shown := (merged (a.length + b.length + 1) a b).filter fun part => !hidden part.1
    r.withComplaints (textOf (shown.map fun (n, line) =>
      List.replicate (((List.range (n - 1)).filter fun i => !hidden (i + 1)).length) '\t' ++ line))
      complaints
  | _ => r.withComplaints [] complaints

/-- Whether two files are the same, and where they first differ. -/
def cmp (r : Request) : Answer :=
  let first := r.operands.headD "-"
  let second := (r.operands[1]?).getD "-"
  match r.content first, r.content second with
  | .ok a, .ok b =>
    let same := ((a.zip b).takeWhile fun (x, y) => x = y).length
    let silent := r.has 's' || r.hasNamed "silent"
    let tooShort := same = a.length || same = b.length
    if a = b then r.answer [] 0
    else if silent then r.answer [] 1
    else if tooShort then r.complain 1 "EOF"
    else
      let line := (a.take same).count '\n' + 1
      { r.lines [first ++ " " ++ second ++ " differ: char " ++ toString (same + 1) ++ ", line "
          ++ toString line] with status := 1 }
  | .error fault, _ => r.refuse (first ++ ": " ++ fault.name)
  | _, .error fault => r.refuse (second ++ ": " ++ fault.name)

/-- Whether two files are the same. A directory stands for the file in it that has the name of the
    other one, and is the same as a directory with the same names. -/
def diff (r : Request) : Answer :=
  let isDirectory (path : String) : Bool := (r.tree.directory? r.here path).isOk
  let within (directory path : String) : String :=
    directory ++ "/" ++ ((path.splitOn "/").getLast?).getD ""
  match r.operands with
  | [a, b] =>
    if isDirectory a && isDirectory b then
      let names (path : String) : List String :=
        ((r.tree.directory? r.here path).toOption.map r.tree.names).getD []
      r.answer [] (if names a = names b then 0 else 1)
    else
      let first := if isDirectory a then within a b else a
      let second := if isDirectory b then within b a else b
      match r.content first, r.content second with
      | .ok x, .ok y =>
        if x = y then r.answer [] 0
        else { r.lines ["Files " ++ a ++ " and " ++ b ++ " differ"] with status := 1 }
      | .error fault, _ => r.refuse (first ++ ": " ++ fault.name)
      | _, .error fault => r.refuse (second ++ ": " ++ fault.name)
  | _ => r.refuse "missing operand"

/-- Writes the input to files and to the output. -/
def tee (r : Request) : Answer :=
  let answer := r.changing r.operands fun tree path => do
    match ← tree.forWriting r.here path with
    | (_, some .void) => return tree
    | (place, some (.file old executable)) =>
      return tree.put place
        (.file (if r.has 'a' then old ++ r.input else r.input) executable)
    | (place, _) => return tree.put place (.file r.input false)
  { answer with output := r.input }

end FunctionHost.Rehearsal.Shell.Request
