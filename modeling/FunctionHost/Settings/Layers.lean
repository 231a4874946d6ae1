-- SUMMARY: Settings resolved in two layers: what the environment gives, laid over the defaults.
import FunctionHost.Settings.Document
import FunctionHost.Settings.Load

/-! # Settings in layers

Settings can be resolved by laying documents over each other. The document of the defaults lies
below. The document above it only has members for what the environment gives. It is laid over the
defaults member by member, also within the credentials, and what comes out is read as settings. -/

namespace FunctionHost

namespace Json

mutual

/-- A value laid over another one. An object is laid over an object member by member, and anything
    else hides what lies below it. -/
def overlay : Json → Json → Json
  | .object lower, .object upper => .object (overlayMembers lower upper)
  | _, upper => upper

/-- Members laid over others. Those whose names do not occur below come last. -/
def overlayMembers :
    List (Option String × Json) → List (Option String × Json) → List (Option String × Json)
  | [], upper => upper
  | (name, value) :: lower, upper =>
    match upper.find? fun member => member.1 == name with
    | some member =>
      (name, overlay value member.2) ::
        overlayMembers lower (upper.filter fun member => member.1 != name)
    | none => (name, value) :: overlayMembers lower upper

end

/-- Those members that have a value. -/
def givenMembers (members : List (String × Option Json)) : List (Option String × Json) :=
  members.filterMap fun (name, value) => value.map fun v => (some name, v)

/-- The object of those members that have a value. -/
def ofGiven (members : List (String × Option Json)) : Json :=
  .object (givenMembers members)

end Json

namespace Settings

/-- What an environment gives for the settings. The time limit is in seconds. -/
structure Overrides where
  timeout : Option Nat
  version : Option String
  memory : Option String
  name : Option String
  handler : Option String
  credentials : Credentials
  deriving Repr, DecidableEq

/-- The members of a document of credentials, with those values that are given. -/
def givenCredentials (c : Credentials) : List (String × Option Json) :=
  [ ("access_key_id", c.accessKeyId.map Json.ofText),
    ("secret_access_key", c.secretAccessKey.map Json.ofText),
    ("session_token", c.sessionToken.map Json.ofText) ]

/-- The members of a document of settings, with those values that are given. -/
def Overrides.given (o : Overrides) : List (String × Option Json) :=
  [ ("function_timeout", o.timeout.map fun seconds => .number (Numeral.ofNat seconds)),
    ("function_version", o.version.map Json.ofText),
    ("memory_size", o.memory.map Json.ofText),
    ("function_name", o.name.map Json.ofText),
    ("handler", o.handler.map Json.ofText),
    ("credentials", some (Json.ofGiven (givenCredentials o.credentials))) ]

/-- The document of what is given. What is not given has no member. -/
def Overrides.toJson (o : Overrides) : Json :=
  Json.ofGiven o.given

/-- The time limit in seconds that an environment gives. -/
def givenTimeout (env : Environment) : Except Problem (Option Nat) :=
  match env.nonEmpty? timeoutVariable with
  | some raw => (parseTimeout raw).map some
  | none => .ok none

/-- What an environment gives for the settings. -/
def overrides (env : Environment) : Except Problem Overrides := do
  let timeout ← givenTimeout env
  return {
    timeout
    version := env.nonEmpty? "AWS_LAMBDA_FUNCTION_VERSION"
    memory := env.nonEmpty? "AWS_LAMBDA_FUNCTION_MEMORY_SIZE"
    name := env.nonEmpty? "AWS_LAMBDA_FUNCTION_NAME"
    handler := (env.nonEmpty? "AWS_LAMBDA_FUNCTION_HANDLER").or (env.nonEmpty? "_HANDLER")
    credentials := {
      accessKeyId := env.nonEmpty? "AWS_ACCESS_KEY_ID"
      secretAccessKey := env.nonEmpty? "AWS_SECRET_ACCESS_KEY"
      sessionToken := env.nonEmpty? "AWS_SESSION_TOKEN" } }

/-- The settings that an environment gives, read from the layers. There are none when the layers
    together are not a document of settings. -/
def loadLayered (env : Environment) : Except Problem (Option Settings) :=
  (overrides env).map fun given => Document.settings? (default.toJson.overlay given.toJson)

end Settings

end FunctionHost
