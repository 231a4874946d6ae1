-- SUMMARY: The environment variables that a function starts with.
import FunctionHost.Dictionary
import FunctionHost.Text.Utf8

/-! # Environment

An environment is a dictionary of variables. It always defines a few variables of the platform,
and everything given later wins over them. A variable set to the empty text counts as unset
wherever a setting is looked up. -/

namespace FunctionHost

/-- The variables a function starts with, by name. -/
structure Environment where
  values : Dictionary String
  deriving DecidableEq

namespace Environment

/-- The variables that the platform always defines. -/
def platform : List (String × String) :=
  [ ("AWS_LAMBDA_LOG_GROUP_NAME", "/aws/lambda/Functions"),
    ("AWS_LAMBDA_LOG_STREAM_NAME", "$LATEST"),
    ("AWS_LAMBDA_FUNCTION_VERSION", "$LATEST"),
    ("AWS_LAMBDA_FUNCTION_MEMORY_SIZE", "3008"),
    ("AWS_LAMBDA_FUNCTION_NAME", "test_function") ]

/-- An environment with further variables set, later ones winning. -/
def overlaid (env : Environment) (pairs : List (String × String)) : Environment :=
  ⟨env.values.insertAll pairs⟩

/-- The variables of the platform with others set on top of them. -/
def ofPairs (pairs : List (String × String)) : Environment :=
  ⟨Dictionary.ofList (platform ++ pairs)⟩

/-- The name and the value of an entry `NAME=VALUE`, split at its first `=`. An entry without one
    is a name with an empty value. -/
def splitEntry (entry : String) : String × String :=
  let cs := entry.toList
  (String.ofList (cs.takeWhile (· ≠ '=')), String.ofList ((cs.dropWhile (· ≠ '=')).drop 1))

/-- The environment of a list of entries `NAME=VALUE`. -/
def ofEntries (entries : List String) : Environment :=
  ofPairs (entries.map splitEntry)

/-- The environment of a process whose names and values are bytes; what is not UTF-8 in them is
    replaced by U+FFFD. -/
def ofBytes (pairs : List (Bytes × Bytes)) : Environment :=
  ofPairs (pairs.map fun (name, value) => (Text.Utf8.lossy name, Text.Utf8.lossy value))

/-- The environment that only defines the variables of the platform. -/
def default : Environment :=
  ofPairs []

instance : Inhabited Environment := ⟨default⟩

/-- The value of a variable, even an empty one. -/
def get? (env : Environment) (name : String) : Option String :=
  env.values.get? name

/-- The value of a variable that is set to more than the empty text. -/
def nonEmpty? (env : Environment) (name : String) : Option String :=
  (env.get? name).filter fun value => !value.isEmpty

/-- The number of variables. -/
def size (env : Environment) : Nat :=
  env.values.size

/-- The variables and their values in ascending order of the names. -/
def toList (env : Environment) : List (String × String) :=
  env.values.entries

end Environment

end FunctionHost
