-- SUMMARY: Query strings as lists of decoded parameters, and repeated parameters joined by commas.
import FunctionHost.Dictionary
import FunctionHost.Text.Percent

/-! # Query parameters

A query string is a list of pieces between ampersands, each a name and a value around the first
equals sign. In both, a plus sign stands for a space, percent-encoding is undone, and what is
then not UTF-8 is replaced. The values of a name are joined by commas in the order of the
query. -/

namespace FunctionHost.UrlEvent

/-- Values by name, each name with all its values in order of arrival. -/
def collect (pairs : List (String × String)) : Dictionary (List String) :=
  pairs.foldl (fun d (name, value) => d.alter name fun known => known.getD [] ++ [value])
    Dictionary.empty

/-- Values by name, the values of a name joined by commas in order of arrival. -/
def joined (pairs : List (String × String)) : Dictionary String :=
  (collect pairs).map fun values => String.intercalate "," values

namespace Query

/-- The byte `&`. -/
def ampersand : UInt8 := 0x26

/-- The byte `=`. -/
def equals : UInt8 := 0x3D

/-- The byte `+`. -/
def plus : UInt8 := 0x2B

/-- The parts of a byte string between the ampersands in it. -/
def pieces (bs : Bytes) : List Bytes :=
  bs.splitOn ampersand

/-- The text that a name or a value in a query stands for. -/
def decode (bs : Bytes) : String :=
  Text.Utf8.lossy (Text.Percent.decode (bs.map fun b => if b = plus then 0x20 else b))

/-- The name and the value of a piece. -/
def parameter (piece : Bytes) : String × String :=
  (decode (piece.takeWhile (· ≠ equals)), decode ((piece.dropWhile (· ≠ equals)).drop 1))

/-- The parameters of a query in order. Empty pieces are none. -/
def parameters (bs : Bytes) : List (String × String) :=
  ((pieces bs).filter fun piece => !piece.isEmpty).map parameter

end Query

/-- The parameters of a query string by name, repeated ones joined by commas. -/
def queryParameters (query : String) : Dictionary String :=
  joined (Query.parameters (Text.Utf8.bytes query))

end FunctionHost.UrlEvent
