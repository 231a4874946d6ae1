-- SUMMARY: The compact text of a JSON value.
import FunctionHost.Json.Basic

/-! # JSON text

Values are written without blanks. In a string only the quote, the backslash and the controls
below U+0020 are escaped; five controls have letters, and the others are written with four
lower-case hexadecimal digits. -/

namespace FunctionHost

/-- A hexadecimal digit in lower case. -/
def Json.hexDigit (value : Nat) : Char :=
  if value < 10 then Char.ofNat (48 + value) else Char.ofNat (87 + value)

/-- What stands for one character inside a JSON string. -/
def Json.escape (c : Char) : List Char :=
  match c with
  | '\x22' => ['\\', '\x22']
  | '\\' => ['\\', '\\']
  | '\x08' => ['\\', 'b']
  | '\x0c' => ['\\', 'f']
  | '\n' => ['\\', 'n']
  | '\r' => ['\\', 'r']
  | '\t' => ['\\', 't']
  | _ =>
    if c.toNat < 0x20 then
      ['\\', 'u', '0', '0', hexDigit (c.toNat / 16), hexDigit (c.toNat % 16)]
    else [c]

/-- A JSON string, between its quotes. One that has no text is written as half a surrogate pair. -/
def Json.printText : Option String → List Char
  | some text => '\x22' :: text.toList.flatMap Json.escape ++ ['\x22']
  | none => '\x22' :: "\\ud800".toList ++ ['\x22']

/-- A numeral. -/
def Numeral.print (n : Numeral) : List Char :=
  let sign := if n.negative then ['-'] else []
  let digits := (toString n.coefficient).toList
  match n.exponent with
  | none => sign ++ digits
  | some e => sign ++ digits ++ 'e' :: (toString e).toList

namespace Json

mutual

/-- The compact text of a value. -/
def print : Json → List Char
  | .null => "null".toList
  | .bool true => "true".toList
  | .bool false => "false".toList
  | .number n => n.print
  | .string text => printText text
  | .array elements => '[' :: printElements elements ++ [']']
  | .object members => '\x7b' :: printMembers members ++ ['\x7d']

/-- The elements of an array, with commas between them. -/
def printElements : List Json → List Char
  | [] => []
  | [v] => print v
  | v :: rest => print v ++ ',' :: printElements rest

/-- The members of an object, with commas between them. -/
def printMembers : List (Option String × Json) → List Char
  | [] => []
  | [(name, v)] => printText name ++ ':' :: print v
  | (name, v) :: rest => printText name ++ ':' :: print v ++ ',' :: printMembers rest

end

/-- The compact text of a value, as a string. -/
def render (v : Json) : String :=
  String.ofList (print v)

end Json

end FunctionHost
