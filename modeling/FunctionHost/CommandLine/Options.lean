-- SUMMARY: What a command line asks for: options, and after them the bootstrap.
import FunctionHost.Bootstrap.Basic
import FunctionHost.Net.SocketAddress

/-! # Command lines

A command line gives options and then, from the first word that is none, the command of the
bootstrap. Two dashes end the options as well. An option has its value after an equals sign or in
the next word, and is given at most once. Words are read from left to right: the first one that
asks for the version or for help decides, unless something before it is wrong. -/

namespace FunctionHost.CommandLine

/-- How the program is to be run. -/
structure Options where
  listen : Net.SocketAddress
  interface : Net.SocketAddress
  logFilter : String
  external : Bool
  command : List String
  deriving Repr, DecidableEq

/-- What a command line asks for. -/
inductive Request where
  | version
  | help
  | misuse
  | serve (options : Options)
  deriving Repr, DecidableEq

/-- The options that have values. -/
inductive Key where
  | listen
  | interface
  | logFilter
  deriving Repr, DecidableEq

/-- The words that stand for options. -/
inductive Word where
  | valued (key : Key)
  | external
  | version
  | help
  deriving Repr, DecidableEq

/-- The option with a long name. -/
def longName? (name : String) : Option Word :=
  match name with
  | "listen" => some (.valued .listen)
  | "runtime-api" => some (.valued .interface)
  | "log-level" => some (.valued .logFilter)
  | "external-runtime" => some .external
  | "version" => some .version
  | "help" => some .help
  | _ => none

/-- The option with a letter. -/
def letter? (c : Char) : Option Word :=
  match c with
  | 'V' => some .version
  | 'h' => some .help
  | _ => none

/-- The options given so far. -/
structure Given where
  listen : Option Net.SocketAddress
  interface : Option Net.SocketAddress
  logFilter : Option String
  external : Bool
  deriving Repr, DecidableEq

namespace Given

/-- No option was given yet. -/
def none : Given :=
  ⟨Option.none, Option.none, Option.none, false⟩

/-- An option is given a value, for the first time and one that it can have. -/
def set? (g : Given) (key : Key) (value : String) : Option Given :=
  match key with
  | .listen =>
    if g.listen.isSome then Option.none
    else (Net.SocketAddress.parse? value).map fun a => { g with listen := some a }
  | .interface =>
    if g.interface.isSome then Option.none
    else (Net.SocketAddress.parse? value).map fun a => { g with interface := some a }
  | .logFilter =>
    if g.logFilter.isSome then Option.none else some { g with logFilter := some value }

/-- The address on which requests are taken unless another one is given. -/
def defaultListen : Net.SocketAddress :=
  .v4 ⟨0, 0, 0, 0⟩ 8080

/-- The address of the interface for the function unless another one is given. -/
def defaultInterface : Net.SocketAddress :=
  .loopback 9001

/-- What a command line asks for whose options are read, given the rest of its words. A function
    that is started by somebody else has no command here. -/
def finish (g : Given) (command : List String) : Request :=
  if g.external && !command.isEmpty then .misuse
  else
    .serve {
      listen := g.listen.getD defaultListen
      interface := g.interface.getD defaultInterface
      logFilter := g.logFilter.getD "info"
      external := g.external
      command }

end Given

/-- What a word is read as. -/
inductive Reading where
  | endOfOptions
  | option (word : Word) (value : Option String)
  | unknown
  | plain
  deriving Repr, DecidableEq

/-- What a word is read as. A single dash is a plain word. -/
def read (word : String) : Reading :=
  match word.toList with
  | ['-', '-'] => .endOfOptions
  | '-' :: '-' :: rest =>
    let name := String.ofList (rest.takeWhile (· ≠ '='))
    let value := match rest.dropWhile (· ≠ '=') with
      | '=' :: value => some (String.ofList value)
      | _ => none
    match longName? name with
    | some option => .option option value
    | none => .unknown
  | '-' :: c :: _ =>
    match letter? c with
    | some option => .option option none
    | none => .unknown
  | _ => .plain

/-- What a list of words asks for after some options were given. -/
def requestFrom (g : Given) : List String → Request
  | [] => g.finish []
  | word :: rest =>
    match read word with
    | .plain => g.finish (word :: rest)
    | .endOfOptions => g.finish rest
    | .unknown => .misuse
    | .option .version none => .version
    | .option .help none => .help
    | .option .external none =>
      if g.external then .misuse else requestFrom { g with external := true } rest
    | .option (.valued key) (some value) =>
      match g.set? key value with
      | some g => requestFrom g rest
      | none => .misuse
    | .option (.valued key) none =>
      match rest with
      | value :: rest =>
        if read value = .plain then
          match g.set? key value with
          | some g => requestFrom g rest
          | none => .misuse
        else .misuse
      | [] => .misuse
    | .option _ (some _) => .misuse

/-- What a command line asks for. -/
def request (words : List String) : Request :=
  requestFrom .none words

/-- The bootstrap that options name, or one of the standard ones that are present. -/
def Options.bootstrap (o : Options) (present : String → Bool) : Bootstrap :=
  if o.external then .external
  else if o.command.isEmpty then .discover present
  else ⟨o.command, none⟩

end FunctionHost.CommandLine
