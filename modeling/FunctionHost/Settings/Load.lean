-- SUMMARY: Settings taken from the environment.
import FunctionHost.Environment
import FunctionHost.Settings.Basic
import FunctionHost.Settings.Timeout

/-! # Settings from the environment

Each setting has a variable. One that is unset, or set to the empty text, leaves the setting at
its default. Only the time limit can be refused. -/

namespace FunctionHost.Settings

/-- The variable of the time limit. -/
def timeoutVariable : String :=
  "AWS_LAMBDA_FUNCTION_TIMEOUT"

/-- The variables of all settings. -/
def variableNames : List String :=
  [ timeoutVariable, "AWS_LAMBDA_FUNCTION_VERSION", "AWS_LAMBDA_FUNCTION_MEMORY_SIZE",
    "AWS_LAMBDA_FUNCTION_NAME", "AWS_LAMBDA_FUNCTION_HANDLER", "_HANDLER", "AWS_ACCESS_KEY_ID",
    "AWS_SECRET_ACCESS_KEY", "AWS_SESSION_TOKEN" ]

/-- The time limit that an environment sets. -/
def loadTimeout (env : Environment) : Except Problem Time.Span :=
  match env.nonEmpty? timeoutVariable with
  | some raw => (parseTimeout raw).map fun seconds => Time.Span.ofSeconds (UInt64.ofNat seconds)
  | none => .ok default.timeout

/-- The settings that an environment gives. -/
def load (env : Environment) : Except Problem Settings := do
  let timeout ← loadTimeout env
  return {
    timeout
    version := (env.nonEmpty? "AWS_LAMBDA_FUNCTION_VERSION").getD default.version
    memory := (env.nonEmpty? "AWS_LAMBDA_FUNCTION_MEMORY_SIZE").getD default.memory
    name := (env.nonEmpty? "AWS_LAMBDA_FUNCTION_NAME").getD default.name
    handler := (env.nonEmpty? "AWS_LAMBDA_FUNCTION_HANDLER").or (env.nonEmpty? "_HANDLER")
    credentials := {
      accessKeyId := env.nonEmpty? "AWS_ACCESS_KEY_ID"
      secretAccessKey := env.nonEmpty? "AWS_SECRET_ACCESS_KEY"
      sessionToken := env.nonEmpty? "AWS_SESSION_TOKEN" } }

end FunctionHost.Settings
