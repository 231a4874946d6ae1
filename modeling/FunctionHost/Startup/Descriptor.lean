-- SUMMARY: What a sandbox is told once, before the first invocation.
import FunctionHost.Bootstrap.Basic
import FunctionHost.Environment
import FunctionHost.Net.SocketAddress
import FunctionHost.Settings.Basic

/-! # Startup descriptors

Before the first invocation a sandbox is told everything it needs to start the function. The
function then starts with the environment of the descriptor, with a few variables laid over it:
where to fetch invocations, its name and version, and its handler and credentials if it has
any. -/

namespace FunctionHost

/-- What is known of the image that a function runs in. -/
structure ImageInfo where
  document : String
  arn : String
  version : String
  deriving Repr, DecidableEq, Inhabited

/-- Nothing is known of the image. -/
def ImageInfo.unknown : ImageInfo :=
  ⟨"\x7b\x7d", "", ""⟩

/-- When a sandbox is started. -/
inductive SandboxKind where
  | classic
  deriving Repr, DecidableEq, Inhabited

/-- The name of a kind of sandbox. -/
def SandboxKind.name : SandboxKind → String
  | .classic => "Classic"

/-- What a sandbox is told before the first invocation. -/
structure Descriptor where
  handler : String
  credentials : Credentials
  tracingAddress : String
  functionName : String
  functionVersion : String
  image : ImageInfo
  environment : Environment
  kind : SandboxKind
  bootstrap : Bootstrap
  deriving DecidableEq

namespace Descriptor

/-- The address of the tracing daemon. Nothing listens there. -/
def noTracing : String := "0.0.0.0:0"

/-- The descriptor of a function with given settings, environment and bootstrap. -/
def build (settings : Settings) (environment : Environment) (bootstrap : Bootstrap) :
    Descriptor where
  handler := settings.handler.getD ""
  credentials := settings.credentials
  tracingAddress := noTracing
  functionName := settings.name
  functionVersion := settings.version
  image := .unknown
  environment
  kind := .classic
  bootstrap

/-- A variable that is only set when it has a value. -/
def optional (name : String) (value : Option String) : List (String × String) :=
  match value with
  | some v => [(name, v)]
  | none => []

/-- The variables that are laid over the environment of a descriptor. -/
def overlay (d : Descriptor) (api : Net.SocketAddress) : List (String × String) :=
  [ ("AWS_LAMBDA_RUNTIME_API", api.render),
    ("AWS_LAMBDA_FUNCTION_NAME", d.functionName),
    ("AWS_LAMBDA_FUNCTION_VERSION", d.functionVersion),
    ("AWS_XRAY_DAEMON_ADDRESS", d.tracingAddress) ]
  ++ (if d.handler.isEmpty then [] else [("_HANDLER", d.handler)])
  ++ optional "AWS_ACCESS_KEY_ID" d.credentials.accessKeyId
  ++ optional "AWS_SECRET_ACCESS_KEY" d.credentials.secretAccessKey
  ++ optional "AWS_SESSION_TOKEN" d.credentials.sessionToken

/-- The environment that the function starts with, given where it fetches its invocations. -/
def functionEnvironment (d : Descriptor) (api : Net.SocketAddress) : Environment :=
  d.environment.overlaid (d.overlay api)

end Descriptor

end FunctionHost
