-- SUMMARY: Expressions over whole numbers of 64 bits, with variables and assignments.
import FunctionHost.Rehearsal.Shell.Numeral
import FunctionHost.Rehearsal.Shell.Script

/-! # Arithmetic

An expression has numbers and variables, the usual operators with the usual precedence, choices,
and assignments. Numbers have 64 bits and wrap around. The extended language has powers, steps up
and down, elements of arrays, numbers in any base, and expressions one after the other. -/

namespace FunctionHost.Rehearsal.Shell.Arithmetic

/-- An operator with two operands. -/
inductive Operator where
  | or | xor | and
  | equal | unequal | less | greater | atMost | atLeast
  | shiftLeft | shiftRight
  | plus | minus | times | divided | modulo | power
  deriving Repr, DecidableEq

/-- An operator in front of its operand. -/
inductive Sign where
  | plus | minus | not | complement
  deriving Repr, DecidableEq

/-- An expression. -/
inductive Expression where
  | number (n : Int)
  | variable_ (name : String)
  | element (name : String) (index : Expression)
  | stepped (name : String) (change : Int) (afterwards : Bool)
  | sequence (first second : Expression)
  | signed (sign : Sign) (operand : Expression)
  | binary (op : Operator) (left right : Expression)
  | conjunction (left right : Expression)
  | disjunction (left right : Expression)
  | choice (test yes no : Expression)
  | assignment (name : String) (op : Option Operator) (value : Expression)
  deriving Repr, DecidableEq

/-! ## Reading -/

/-- A token of an expression. -/
inductive Token where
  | number (n : Int)
  | name (text : String)
  | operator (text : String)
  deriving Repr, DecidableEq

/-- The texts of the operators, the longer ones first. -/
def operatorTexts : List String :=
  ["<<=", ">>=", "&&", "||", "==", "!=", "<=", ">=", "<<", ">>", "+=", "-=", "*=", "/=", "%=",
    "&=", "^=", "|=", "+", "-", "*", "/", "%", "!", "~", "<", ">", "&", "^", "|", "?", ":", "(",
    ")", "="]

/-- The texts of the operators of a language. -/
def operatorTextsOf (dialect : Dialect) : List String :=
  if dialect = .plain then operatorTexts else ["**", "++", "--"] ++ operatorTexts ++ [",", "[", "]"]

/-- The value of a digit in a base, in which small letters come before capital ones if it is large
    enough to tell them apart. -/
def digitIn? (base : Nat) (c : Char) : Option Nat :=
  let value := if c = '@' then some 62 else if c = '_' then some 63
    else if 36 < base && 'A' ≤ c && c ≤ 'Z' then some (c.toNat - 'A'.toNat + 36)
    else Numeral.digit? c
  value.filter (· < base)

/-- A number that comes next, and what follows it. It may have its base in front of it. -/
def number? (dialect : Dialect) (cs : List Char) : Option (Int × List Char) :=
  let first := cs.takeWhile Char.isDigit
  match dialect, cs.drop first.length with
  | .extended, '#' :: rest => do
    let base := Numeral.ofDigits 10 first
    let inside := rest.takeWhile fun c => c.isAlphanum || c = '@' || c = '_'
    if base < 2 || 64 < base || inside.isEmpty then failure
    let digits ← inside.mapM (digitIn? base)
    return (Numeral.wrap (digits.foldl (fun n d => n * base + d) 0 : Nat), rest.drop inside.length)
  | _, _ =>
    let (base, digits) := Numeral.based cs
    let inside := digits.takeWhile (Numeral.isDigitIn base)
    let after := digits.drop inside.length
    let value : Int := Numeral.ofDigits base inside
    if dialect = .plain then some (min value Numeral.largest, after)
    else if (after.head?.map Char.isAlphanum).getD false then none
    else some (Numeral.wrap value, after)

/-- The tokens of an expression. -/
def tokens? (dialect : Dialect) (fuel : Nat) (cs : List Char) : Option (List Token) :=
  match fuel with
  | 0 => none
  | fuel + 1 =>
    match cs with
    | [] => some []
    | c :: rest =>
      if Numeral.isSpace c then tokens? dialect fuel rest
      else if c.isDigit then do
        let (value, rest) ← number? dialect cs
        return .number value :: (← tokens? dialect fuel rest)
      else
        let name := leadingName cs
        if !name.isEmpty then
          (tokens? dialect fuel (cs.drop name.length)).map (.name (String.ofList name) :: ·)
        else
          match (operatorTextsOf dialect).find? fun op => op.toList.isPrefixOf cs with
          | some op => (tokens? dialect fuel (cs.drop op.length)).map (.operator op :: ·)
          | none => none

/-- The operators between two operands, with how tightly they bind. -/
def levels : List (String × Nat × Operator) :=
  [ ("|", 0, .or), ("^", 1, .xor), ("&", 2, .and), ("==", 3, .equal), ("!=", 3, .unequal),
    ("<", 4, .less), (">", 4, .greater), ("<=", 4, .atMost), (">=", 4, .atLeast),
    ("<<", 5, .shiftLeft), (">>", 5, .shiftRight), ("+", 6, .plus), ("-", 6, .minus),
    ("*", 7, .times), ("/", 7, .divided), ("%", 7, .modulo), ("**", 8, .power) ]

/-- The operators that assign, with what they do to the value first. -/
def assigning : List (String × Option Operator) :=
  [ ("=", none), ("*=", some .times), ("/=", some .divided), ("%=", some .modulo),
    ("+=", some .plus), ("-=", some .minus), ("<<=", some .shiftLeft), (">>=", some .shiftRight),
    ("&=", some .and), ("^=", some .xor), ("|=", some .or) ]

mutual

/-- Expressions one after the other, and the tokens after them. -/
def sequence? : Nat → List Token → Option (Expression × List Token)
  | 0, _ => none
  | n + 1, tokens => do
    let (first, rest) ← assignment? n tokens
    match rest with
    | .operator "," :: rest =>
      let (second, rest) ← sequence? n rest
      return (.sequence first second, rest)
    | _ => return (first, rest)

/-- An assignment or a choice, and the tokens after it. -/
def assignment? : Nat → List Token → Option (Expression × List Token)
  | 0, _ => none
  | n + 1, tokens =>
    match tokens with
    | .name name :: .operator op :: rest =>
      match assigning.lookup op with
      | some change => do
        let (value, rest) ← assignment? n rest
        return (.assignment name change value, rest)
      | none => choice? n tokens
    | _ => choice? n tokens

/-- A choice or a disjunction, and the tokens after it. -/
def choice? : Nat → List Token → Option (Expression × List Token)
  | 0, _ => none
  | n + 1, tokens => do
    let (test, rest) ← disjunction? n tokens
    match rest with
    | .operator "?" :: rest =>
      let (yes, rest) ← assignment? n rest
      match rest with
      | .operator ":" :: rest =>
        let (no, rest) ← choice? n rest
        return (.choice test yes no, rest)
      | _ => none
    | _ => return (test, rest)

/-- A disjunction, and the tokens after it. -/
def disjunction? : Nat → List Token → Option (Expression × List Token)
  | 0, _ => none
  | n + 1, tokens => do
    let (left, rest) ← conjunction? n tokens
    match rest with
    | .operator "||" :: rest =>
      let (right, rest) ← disjunction? n rest
      return (.disjunction left right, rest)
    | _ => return (left, rest)

/-- A conjunction, and the tokens after it. -/
def conjunction? : Nat → List Token → Option (Expression × List Token)
  | 0, _ => none
  | n + 1, tokens => do
    let (first, rest) ← primary? n tokens
    let (left, rest) ← binaryAfter? n 0 first rest
    match rest with
    | .operator "&&" :: rest =>
      let (right, rest) ← conjunction? n rest
      return (.conjunction left right, rest)
    | _ => return (left, rest)

/-- An expression that starts with a given operand and goes on with operators that bind at least
    as tightly as a given level, and the tokens after it. -/
def binaryAfter? : Nat → Nat → Expression → List Token → Option (Expression × List Token)
  | 0, _, _, _ => none
  | n + 1, least, left, tokens =>
    match tokens with
    | .operator "++" :: rest => binaryAfter? n least left (.operator "+" :: .operator "+" :: rest)
    | .operator "--" :: rest => binaryAfter? n least left (.operator "-" :: .operator "-" :: rest)
    | .operator text :: rest =>
      match levels.lookup text with
      | some (level, op) =>
        if level < least then some (left, tokens)
        else do
          let (operand, rest) ← primary? n rest
          let (right, rest) ←
            binaryAfter? n (if op = .power then level else level + 1) operand rest
          binaryAfter? n least (.binary op left right) rest
      | none => some (left, tokens)
    | _ => some (left, tokens)

/-- A number, a variable, an expression in parentheses, or one of these after signs, and the tokens
    after it. -/
def primary? : Nat → List Token → Option (Expression × List Token)
  | 0, _ => none
  | n + 1, tokens =>
    match tokens with
    | .number value :: rest => some (.number value, rest)
    | .name name :: .operator "++" :: rest => some (.stepped name 1 true, rest)
    | .name name :: .operator "--" :: rest => some (.stepped name (-1) true, rest)
    | .operator "++" :: .name name :: rest => some (.stepped name 1 false, rest)
    | .operator "--" :: .name name :: rest => some (.stepped name (-1) false, rest)
    | .operator "++" :: rest => primary? n rest
    | .operator "--" :: rest => primary? n rest
    | .name name :: .operator "[" :: rest => do
      let (index, rest) ← sequence? n rest
      match rest with
      | .operator "]" :: rest => return (.element name index, rest)
      | _ => none
    | .name name :: rest => some (.variable_ name, rest)
    | .operator "(" :: rest => do
      let (inside, rest) ← sequence? n rest
      match rest with
      | .operator ")" :: rest => return (inside, rest)
      | _ => none
    | .operator "+" :: rest => (primary? n rest).map fun (e, rest) => (.signed .plus e, rest)
    | .operator "-" :: rest => (primary? n rest).map fun (e, rest) => (.signed .minus e, rest)
    | .operator "!" :: rest => (primary? n rest).map fun (e, rest) => (.signed .not e, rest)
    | .operator "~" :: rest =>
      (primary? n rest).map fun (e, rest) => (.signed .complement e, rest)
    | _ => none

end

/-- The expression in a text of a language. In the extended one a text without tokens is zero. -/
def read? (dialect : Dialect) (text : String) : Option Expression := do
  let tokens ← tokens? dialect (text.length + 1) text.toList
  if tokens.isEmpty && dialect = .extended then return .number 0
  match ← sequence? (16 * tokens.length + 16) tokens with
  | (e, []) => return e
  | _ => none

/-! ## Evaluation -/

/-- Why an expression has no value. -/
inductive Problem where
  | malformed
  | divisionByZero
  | notANumber (text : String)
  | negativePower
  | unset (name : String)
  deriving Repr, DecidableEq

/-- The number of a truth value. -/
def truth (b : Bool) : Int :=
  if b then 1 else 0

/-- What an operation on the bits of two numbers makes of them. -/
def bitwise (f : UInt64 → UInt64 → UInt64) (a b : Int) : Int :=
  (f (Int64.ofInt a).toUInt64 (Int64.ofInt b).toUInt64).toInt64.toInt

/-- A power of a number. Its exponent is halved at most so many times. -/
def raised (a : Int64) (n : Nat) : Nat → Int64
  | 0 => 1
  | fuel + 1 =>
    if n = 0 then 1
    else
      let half := raised (a * a) (n / 2) fuel
      if n % 2 = 1 then a * half else half

/-- What an operator makes of two numbers. -/
def Operator.apply (op : Operator) (a b : Int) : Except Problem Int :=
  match op with
  | .or => .ok (bitwise (· ||| ·) a b)
  | .xor => .ok (bitwise (· ^^^ ·) a b)
  | .and => .ok (bitwise (· &&& ·) a b)
  | .equal => .ok (truth (a = b))
  | .unequal => .ok (truth (a ≠ b))
  | .less => .ok (truth (a < b))
  | .greater => .ok (truth (b < a))
  | .atMost => .ok (truth (a ≤ b))
  | .atLeast => .ok (truth (b ≤ a))
  | .shiftLeft => .ok (Int64.ofInt a <<< Int64.ofInt b).toInt
  | .shiftRight => .ok (Int64.ofInt a >>> Int64.ofInt b).toInt
  | .plus => .ok (Numeral.wrap (a + b))
  | .minus => .ok (Numeral.wrap (a - b))
  | .times => .ok (Numeral.wrap (a * b))
  | .divided => if b = 0 then .error .divisionByZero else .ok (Numeral.wrap (a.tdiv b))
  | .modulo => if b = 0 then .error .divisionByZero else .ok (a.tmod b)
  | .power => if b < 0 then .error .negativePower else .ok (raised (Int64.ofInt a) b.toNat 64).toInt

/-- What a sign makes of a number. -/
def Sign.apply (sign : Sign) (a : Int) : Int :=
  match sign with
  | .plus => a
  | .minus => Numeral.wrap (-a)
  | .not => truth (a = 0)
  | .complement => -a - 1

/-- The variables that an expression has assigned, the last one first. -/
abbrev Assigned := List (String × Int)

/-- Where an element of an array is found among the variables. -/
def elementName (name : String) (index : Int) : String :=
  if index = 0 then name else name ++ "[" ++ toString index ++ "]"

/-- The value of a variable: assigned before in the expression, or known from outside. -/
def valueOf (outside : String → Except Problem Int) (assigned : Assigned) (name : String) :
    Except Problem Int :=
  match assigned.lookup name with
  | some n => .ok n
  | none => outside name

/-- The value of an expression, and what it assigns. -/
def Expression.value (outside : String → Except Problem Int) (assigned : Assigned) :
    Expression → Except Problem (Int × Assigned)
  | .number n => .ok (n, assigned)
  | .variable_ name => do return (← valueOf outside assigned name, assigned)
  | .element name index => do
    let (i, assigned) ← index.value outside assigned
    return (← valueOf outside assigned (elementName name i), assigned)
  | .stepped name change afterwards => do
    let old ← valueOf outside assigned name
    let new := Numeral.wrap (old + change)
    return (if afterwards then old else new, (name, new) :: assigned)
  | .sequence first second => do
    let (_, assigned) ← first.value outside assigned
    second.value outside assigned
  | .signed sign operand => do
    let (a, assigned) ← operand.value outside assigned
    return (sign.apply a, assigned)
  | .binary op left right => do
    let (a, assigned) ← left.value outside assigned
    let (b, assigned) ← right.value outside assigned
    return (← op.apply a b, assigned)
  | .conjunction left right => do
    let (a, assigned) ← left.value outside assigned
    if a = 0 then return (0, assigned)
    let (b, assigned) ← right.value outside assigned
    return (truth (b ≠ 0), assigned)
  | .disjunction left right => do
    let (a, assigned) ← left.value outside assigned
    if a ≠ 0 then return (1, assigned)
    let (b, assigned) ← right.value outside assigned
    return (truth (b ≠ 0), assigned)
  | .choice test yes no => do
    let (a, assigned) ← test.value outside assigned
    if a ≠ 0 then yes.value outside assigned else no.value outside assigned
  | .assignment name op value => do
    let (b, assigned) ← value.value outside assigned
    let n ← match op with
      | some op => op.apply (← valueOf outside assigned name) b
      | none => .ok b
    return (n, (name, n) :: assigned)

/-- The number that the text of a variable stands for: in the plain language it is one, in the
    extended one it is an expression, whose variables are again such texts, so deeply at most. -/
def numberIn (dialect : Dialect) (texts : String → Except Problem String) :
    Nat → String → Except Problem Int
  | 0, name => .error (.notANumber name)
  | depth + 1, name => do
    let text ← texts name
    match dialect with
    | .plain =>
      match Numeral.parse? true text with
      | some n => return n
      | none => throw (.notANumber text)
    | .extended =>
      match read? dialect text with
      | some e => return (← e.value (numberIn dialect texts depth) []).1
      | none => throw .malformed

/-- How deeply the texts of variables may lead to others. -/
def deepestText : Nat := 100

/-- The value of the expression in a text, and what it assigns, the first assignment first. -/
def evaluate (dialect : Dialect) (texts : String → Except Problem String) (text : String) :
    Except Problem (Int × Assigned) :=
  match read? dialect text with
  | some e =>
    (e.value (numberIn dialect texts deepestText) []).map fun (n, assigned) =>
      (n, assigned.reverse)
  | none => .error .malformed

end FunctionHost.Rehearsal.Shell.Arithmetic
