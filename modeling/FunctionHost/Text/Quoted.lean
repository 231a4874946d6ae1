-- SUMMARY: Texts in double quotes for messages, with escapes for everything that would not show.
import FunctionHost.Text.Printable

/-! # Quoted text

A message shows a text between double quotes. A quote and a backslash are preceded by a
backslash, four controls have letters of their own, and every other character without a visible
form is written as its code point in braces. -/

namespace FunctionHost.Text.Quoted

/-- The lower-case hexadecimal digits of a number, without leading zeros. -/
def hex (n : Nat) : List Char :=
  Nat.toDigits 16 n

/-- What stands for one character between the quotes. -/
def escape (c : Char) : List Char :=
  match c with
  | '\x00' => ['\\', '0']
  | '\t' => ['\\', 't']
  | '\n' => ['\\', 'n']
  | '\r' => ['\\', 'r']
  | '\x22' => ['\\', '\x22']
  | '\\' => ['\\', '\\']
  | _ =>
    if Printable.isPrintable c then [c]
    else "\\u\x7b".toList ++ hex c.toNat ++ ['\x7d']

/-- A text between double quotes. -/
def quote (text : String) : String :=
  String.ofList ('\x22' :: text.toList.flatMap escape ++ ['\x22'])

end FunctionHost.Text.Quoted
