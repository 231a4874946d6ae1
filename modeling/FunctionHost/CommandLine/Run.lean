-- SUMMARY: What the program does when it is run: it says something and ends, or serves.
import FunctionHost.CommandLine.LogFilter
import FunctionHost.CommandLine.Options
import FunctionHost.Endpoint.Serving

/-! # Running the program

A run ends at once when the command line asks for a text, when it is misused, or when something
that is needed for serving fails. In the last case the failure is reported with its causes, which
are numbered if there are several. Before anything else the program complains about its log
filter. -/

namespace FunctionHost.CommandLine

/-- The name of the program. -/
def programName : String := "lambda-emulator"

/-- The version of the program. -/
def version : String := "0.1.0"

/-- The line about the version. -/
def versionText : String :=
  programName ++ " " ++ version ++ "\n"

/-- How the program is used. -/
def usage : String :=
  "Usage: " ++ programName ++ " [OPTIONS] [BOOTSTRAP]...\n"

/-- The text that explains the program. -/
def helpText : String :=
  String.intercalate "\n"
    [ "Local AWS Lambda invoke endpoint: Invocations API and function URL adapter over a"
        ++ " pluggable sandbox",
      "",
      usage,
      "Arguments:",
      "  [BOOTSTRAP]...  Bootstrap command and arguments. Defaults to the first existing standard"
        ++ " bootstrap location",
      "",
      "Options:",
      "      --listen <LISTEN>            Address the invoke endpoint listens on [default:"
        ++ " 0.0.0.0:8080]",
      "      --runtime-api <RUNTIME_API>  Address the local Runtime API listens on [default:"
        ++ " 127.0.0.1:9001]",
      "      --log-level <LOG_LEVEL>      Log filter used when " ++ LogFilter.variableName
        ++ " is not set [default: info]",
      "      --external-runtime           Wait for an externally started runtime instead of"
        ++ " spawning a bootstrap",
      "  -h, --help                       Print help",
      "  -V, --version                    Print version",
      "" ]

/-- What is said of a command line that cannot be read. -/
def misuseText : String :=
  "error: invalid command line\n\n" ++ usage ++ "\nFor more information, try '--help'.\n"

/-! ## Failures -/

/-- Why the program cannot serve: what it was about to do, and the causes of the failure, each of
    them caused by the next. -/
structure Fault where
  attempt : String
  causes : List String
  deriving Repr, DecidableEq

/-- The causes of a failure as they are listed. -/
def listCauses (causes : List String) : List String :=
  match causes with
  | [cause] => ["    " ++ cause]
  | _ => causes.zipIdx.map fun (cause, i) => s!"    {i}: " ++ cause

/-- The report of a failure. -/
def Fault.report (f : Fault) : String :=
  let lines := ["Error: " ++ f.attempt, "", "Caused by:"] ++ listCauses f.causes
  String.join (lines.map (· ++ "\n"))

namespace Fault

/-- The settings cannot be loaded. -/
def settings (problem : Settings.Problem) : Fault :=
  ⟨"failed to load configuration", problem.message :: problem.cause?.toList⟩

/-- The interface for the function cannot be opened. -/
def interface (address : Net.SocketAddress) (reason : String) : Fault :=
  ⟨"failed to start runtime API",
    ["Failed to bind runtime API to " ++ address.render ++ ": " ++ reason, reason]⟩

/-- The endpoint cannot be opened. -/
def endpoint (problem : Endpoint.ServingProblem) : Fault :=
  ⟨"failed to start emulator", [problem.message]⟩

end Fault

/-! ## Runs -/

/-- What the program does: it ends with a status after it wrote to its output and to its error
    output, or it serves until it is interrupted, after it wrote to its error output. -/
inductive Run where
  | ends (status : UInt8) (output error : String)
  | serves (serving : Endpoint.Serving) (error : String)

/-- Opens the interface for the function and then the endpoint, on a host that may refuse to listen
    on an address beside others. -/
def Options.serve (o : Options) (present : String → Bool) (environment : Environment)
    (listen : List Net.SocketAddress → Net.SocketAddress → Except String Net.SocketAddress) :
    Except Fault Endpoint.Serving := do
  let settings ← (Settings.load environment).mapError .settings
  let interface ← (listen [] o.interface).mapError (.interface o.interface)
  let opening : Endpoint.Opening := {
    hasSandbox := true
    settings := some settings
    environment
    bootstrap := o.bootstrap present
    address := o.listen }
  (opening.serve (listen [interface])).mapError .endpoint

/-- What the program does with a command line and an environment, on such a host. -/
def run (words : List String) (present : String → Bool) (environment : Environment)
    (listen : List Net.SocketAddress → Net.SocketAddress → Except String Net.SocketAddress) : Run :=
  match request words with
  | .version => .ends 0 versionText ""
  | .help => .ends 0 helpText ""
  | .misuse => .ends 2 "" misuseText
  | .serve options =>
    let complaints := LogFilter.complaints (environment.get? LogFilter.variableName)
      options.logFilter
    let said := String.join (complaints.map (· ++ "\n"))
    match options.serve present environment listen with
    | .ok serving => .serves serving said
    | .error fault => .ends 1 "" (said ++ fault.report)

end FunctionHost.CommandLine
