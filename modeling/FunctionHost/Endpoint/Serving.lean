-- SUMMARY: Opening an endpoint on an address.
import FunctionHost.Endpoint.Route
import FunctionHost.Net.SocketAddress
import FunctionHost.Settings.Load
import FunctionHost.Startup.Plan

/-! # Serving

An endpoint can be opened once it has a sandbox, settings and an address to listen on. What is
missing is noticed in this order. -/

namespace FunctionHost.Endpoint

/-- Why an endpoint cannot be opened. -/
inductive ServingProblem where
  | noSandbox
  | settings (problem : Settings.Problem)
  | bind (reason : String)
  deriving Repr, DecidableEq

/-- The description of why an endpoint cannot be opened. -/
def ServingProblem.message : ServingProblem → String
  | .noSandbox => "Failed to start server: a sandbox is required"
  | .settings problem => problem.message
  | .bind reason => "Failed to bind to address: " ++ reason

/-- What an endpoint is opened with. Settings that are not given are taken from the environment. -/
structure Opening where
  hasSandbox : Bool
  settings : Option Settings
  environment : Environment
  bootstrap : Bootstrap
  address : Net.SocketAddress

/-- An open endpoint: where it listens, and its plan. -/
structure Serving where
  address : Net.SocketAddress
  plan : Plan

/-- Opens an endpoint on a host that may refuse to listen on an address. -/
def Opening.serve (o : Opening)
    (listen : Net.SocketAddress → Except String Net.SocketAddress) :
    Except ServingProblem Serving := do
  if !o.hasSandbox then throw .noSandbox
  let settings ←
    match o.settings with
    | some settings => pure settings
    | none => (Settings.load o.environment).mapError .settings
  let address ← (listen o.address).mapError .bind
  return ⟨address, ⟨settings, o.environment, o.bootstrap⟩⟩

/-- The address of a web server that is reached under some authority. -/
def baseUrl (authority : String) : String :=
  "http://" ++ authority

/-- The address of the path for payloads under some authority. -/
def invocationsUrl (authority : String) : String :=
  baseUrl authority ++ invocationsPath

end FunctionHost.Endpoint
