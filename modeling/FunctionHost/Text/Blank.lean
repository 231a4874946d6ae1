-- SUMMARY: Which characters are white space, and texts without it at their ends.

/-! # White space

The white space of all scripts: the ASCII space and five controls, and the spaces and separators
outside ASCII. -/

namespace FunctionHost.Text.Blank

/-- Whether a character is white space in some script. -/
def isBlank (c : Char) : Bool :=
  let n := c.toNat
  (0x9 ≤ n && n ≤ 0xD) || (0x2000 ≤ n && n ≤ 0x200A)
    || [0x20, 0x85, 0xA0, 0x1680, 0x2028, 0x2029, 0x202F, 0x205F, 0x3000].contains n

/-- What remains of a text without the white space at its end. -/
def trimEnd (cs : List Char) : List Char :=
  (cs.reverse.dropWhile isBlank).reverse

/-- What remains of a text without the white space at both ends. -/
def trim (cs : List Char) : List Char :=
  trimEnd (cs.dropWhile isBlank)

end FunctionHost.Text.Blank
