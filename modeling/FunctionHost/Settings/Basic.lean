-- SUMMARY: The settings of a function and the credentials handed to it.
import FunctionHost.Text.Quoted
import FunctionHost.Time.Span

/-! # Settings

The settings of a function are its time limit, the labels that its log lines show, the handler it
is started with and the credentials it may use. Secrets never appear in a description. -/

namespace FunctionHost

/-- Credentials for the calls that a function makes. -/
structure Credentials where
  accessKeyId : Option String
  secretAccessKey : Option String
  sessionToken : Option String
  deriving Repr, DecidableEq, Inhabited

namespace Credentials

/-- No credentials. -/
def none : Credentials :=
  ⟨Option.none, Option.none, Option.none⟩

/-- The description of an optional text. -/
def describeText (text : Option String) : String :=
  match text with
  | some t => "Some(" ++ Text.Quoted.quote t ++ ")"
  | Option.none => "None"

/-- What is shown of a secret: only whether there is one. -/
def redact (secret : Option String) : Option String :=
  secret.map fun _ => "<redacted>"

/-- The description of credentials, without their secrets. -/
def describe (c : Credentials) : String :=
  "Credentials \x7b access_key_id: " ++ describeText c.accessKeyId
    ++ ", secret_access_key: " ++ describeText (redact c.secretAccessKey)
    ++ ", session_token: " ++ describeText (redact c.sessionToken) ++ " \x7d"

end Credentials

/-- The settings of a function. -/
structure Settings where
  timeout : Time.Span
  version : String
  memory : String
  name : String
  handler : Option String
  credentials : Credentials
  deriving Repr, DecidableEq

namespace Settings

/-- The time limit of a function that none is set for, in seconds. -/
def defaultTimeout : UInt64 := 300

/-- The settings of a function that nothing is set for. -/
def default : Settings where
  timeout := Time.Span.ofSeconds defaultTimeout
  version := "$LATEST"
  memory := "3008"
  name := "test_function"
  handler := none
  credentials := Credentials.none

instance : Inhabited Settings := ⟨default⟩

/-- What stands before the name of a function in its resource name. -/
def resource : String :=
  "arn:aws:lambda:us-east-1:012345678912:function:"

/-- The resource name under which a function is invoked. -/
def arn (s : Settings) : String :=
  resource ++ s.name

/-- The time limit in whole seconds. -/
def timeoutSeconds (s : Settings) : UInt64 :=
  s.timeout.seconds

/-- The time limit in whole milliseconds, at most 2⁶⁴ - 1. -/
def timeoutMillis (s : Settings) : UInt64 :=
  s.timeout.toMillis

end Settings

end FunctionHost
