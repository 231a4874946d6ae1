-- SUMMARY: Log filters: their directives, and the complaints about those that cannot be read.
import FunctionHost.Text.Alphanumeric
import FunctionHost.Text.Blank
import FunctionHost.Text.Percent

/-! # Log filters

A filter is a list of directives between commas. A directive is a level, or a target, a span in
brackets with fields in braces, or both, and may end with an equals sign and a level. A directive
that cannot be read is ignored with a complaint. The filter in the environment counts only if all
its directives can be read, and otherwise the one on the command line does.

White space around a directive is passed over when its parts are found, but the level is taken from
the directive as it is written, at the place where it was found. -/

namespace FunctionHost.CommandLine.LogFilter

/-- The variable that holds a filter. -/
def variableName : String := "RUST_LOG"

/-- Why a directive cannot be read. -/
inductive Problem where
  | malformed
  | level
  deriving Repr, DecidableEq

/-- The description of why a directive cannot be read. -/
def Problem.message : Problem → String
  | .malformed => "invalid filter directive"
  | .level =>
    "error parsing level filter: expected one of \"off\", \"error\", \"warn\", \"info\", \"debug\","
      ++ " \"trace\", or a number 0-5"

/-- The names of the levels. -/
def levelNames : List String :=
  ["off", "error", "warn", "info", "debug", "trace"]

/-- Whether a text is a level: a name in any letter case, or a number up to five. -/
def isLevel (text : String) : Bool :=
  let digits := match text.toList with
    | '+' :: rest => rest
    | cs => cs
  let number := digits.foldl (fun n c => n * 10 + (c.toNat - '0'.toNat)) 0
  levelNames.contains text.toLower
    || (!digits.isEmpty && digits.all Char.isDigit && number ≤ 5)

/-- Inside of which part of a directive the reader stands. A level is known by the number of bytes
    before it, and a field by whether it is empty so far. -/
inductive Part where
  | start
  | name
  | span
  | field (empty : Bool)
  | fields
  | target
  | level (position : Nat)
  deriving Repr, DecidableEq

/-- Whether a directive may start with a character, unless it starts with a span. -/
def startsName (c : Char) : Bool :=
  c = '-' || c = ':' || c = '_' || Text.Alphanumeric.isAlphanumeric c

/-- The part after a character, given the number of bytes up to its end. -/
def Part.next? (position : Nat) (c : Char) : Part → Option Part
  | .start => if c = '[' then some .span else if startsName c then some .name else none
  | .name => some (if c = '=' then .level position else if c = '[' then .span else .name)
  | .target => if c = '=' then some (.level position) else none
  | .span => some (if c = ']' then .target else if c = '\x7b' then .field true else .span)
  | .field empty => if c ≠ '\x7d' then some (.field false) else if empty then none else some .fields
  | .fields => if c = ']' then some .target else none
  | .level found => some (.level found)

/-- The part in which a directive ends. -/
def lastPart? (position : Nat) (part : Part) : List Char → Option Part
  | [] => some part
  | c :: rest =>
    let position := position + c.utf8Size
    match part.next? position c with
    | some part => lastPart? position part rest
    | none => none

/-- Why a directive cannot be read, if it cannot. -/
def problem? (directive : String) : Option Problem :=
  match lastPart? 0 .start (Text.Blank.trim directive.toList) with
  | some .name => none
  | some .target => none
  | some (.level position) =>
    let written := Text.Utf8.text? ((Text.Utf8.encode directive.toList).drop position)
    if written.any fun level => level.isEmpty || isLevel level then none else some .level
  | _ => some .malformed

/-- The directives of a filter. -/
def directives (filter : String) : List String :=
  (filter.splitOn ",").filter (!·.isEmpty)

/-- The complaints about the directives of a filter that are ignored. -/
def complaintsAbout (filter : String) : List String :=
  (directives filter).filterMap fun directive =>
    (problem? directive).map fun problem =>
      "ignoring \x60" ++ directive ++ "\x60: " ++ problem.message

/-- The complaints about the filter that counts, given the one in the environment, if any, and the
    one on the command line. -/
def complaints (set : Option String) (given : String) : List String :=
  if set.any fun filter => (complaintsAbout filter).isEmpty then [] else complaintsAbout given

end FunctionHost.CommandLine.LogFilter
