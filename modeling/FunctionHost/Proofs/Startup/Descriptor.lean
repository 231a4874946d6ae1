-- SUMMARY: The variables that a function starts with, and that the same settings come out of them.
import FunctionHost.Proofs.Settings.Load
import FunctionHost.Startup.Descriptor

/-! # The environment of the function

What is laid over the environment of a descriptor is said by name. When the settings of the
descriptor were taken from its environment, taking settings from the environment of the function
gives the same ones again: what is laid over it are these settings, and what they do not set is
not touched. -/

namespace FunctionHost

namespace Descriptor

open Dictionary (find?)

/-- The value that is laid over a variable, if any is. -/
def overlaid? (d : Descriptor) (api : Net.SocketAddress) : String → Option String
  | "AWS_LAMBDA_RUNTIME_API" => some api.render
  | "AWS_LAMBDA_FUNCTION_NAME" => some d.functionName
  | "AWS_LAMBDA_FUNCTION_VERSION" => some d.functionVersion
  | "AWS_XRAY_DAEMON_ADDRESS" => some d.tracingAddress
  | "_HANDLER" => if d.handler = "" then none else some d.handler
  | "AWS_ACCESS_KEY_ID" => d.credentials.accessKeyId
  | "AWS_SECRET_ACCESS_KEY" => d.credentials.secretAccessKey
  | "AWS_SESSION_TOKEN" => d.credentials.sessionToken
  | _ => none

theorem find?_optional_reverse (name key : String) (value : Option String) :
    find? name (optional key value).reverse = if key = name then value else none := by
  cases value <;> simp [optional, find?]

theorem find?_overlay (d : Descriptor) (api : Net.SocketAddress) (name : String) :
    find? name (d.overlay api).reverse = d.overlaid? api name := by
  have handler : find? name (if d.handler.isEmpty then [] else [("_HANDLER", d.handler)]).reverse =
      if "_HANDLER" = name then (if d.handler = "" then none else some d.handler) else none := by
    by_cases empty : d.handler = "" <;> simp [empty, find?]
  simp only [overlay, List.reverse_append, Dictionary.find?_append, find?_optional_reverse, handler,
    List.reverse_cons, List.reverse_nil, List.nil_append, List.singleton_append,
    Dictionary.find?_cons, Dictionary.find?_nil, @eq_comm String _ name]
  fun_cases overlaid? d api name <;> simp_all

theorem get?_functionEnvironment (d : Descriptor) (api : Net.SocketAddress) (name : String) :
    (d.functionEnvironment api).get? name =
      (d.overlaid? api name).or (d.environment.get? name) := by
  rw [functionEnvironment, Environment.get?_overlaid, find?_overlay]

/-- A variable that nothing is laid over keeps its value. -/
theorem get?_functionEnvironment_other (d : Descriptor) (api : Net.SocketAddress) {name : String}
    (h : d.overlaid? api name = none) :
    (d.functionEnvironment api).get? name = d.environment.get? name := by
  rw [get?_functionEnvironment, h, Option.none_or]

/-! ## What the next process sees -/

/-- An environment has the variables of another one, and those of the platform where that one has
    none. -/
def Shows (next env : Environment) : Prop :=
  ∀ name, next.get? name = (env.get? name).or (find? name Environment.platform.reverse)

variable {d : Descriptor} {api : Net.SocketAddress} {next : Environment} {name text : String}

theorem get?_shown (shows : Shows next (d.functionEnvironment api)) (name : String) :
    next.get? name = ((d.overlaid? api name).or (d.environment.get? name)).or
      (find? name Environment.platform.reverse) := by
  rw [shows, get?_functionEnvironment]

theorem nonEmpty?_untouched (shows : Shows next (d.functionEnvironment api))
    (untouched : d.overlaid? api name = none)
    (undefined : find? name Environment.platform.reverse = none) :
    next.nonEmpty? name = d.environment.nonEmpty? name := by
  rw [Environment.nonEmpty?, get?_shown shows, untouched, undefined, Option.none_or,
    Option.or_none, Environment.nonEmpty?]

theorem nonEmpty?_overlaid (shows : Shows next (d.functionEnvironment api))
    (overlaid : d.overlaid? api name = some text) (ne : text ≠ "") :
    next.nonEmpty? name = some text := by
  rw [Environment.nonEmpty?_eq_some_iff, get?_shown shows, overlaid, Option.some_or, Option.some_or]
  exact ⟨rfl, ne⟩

/-- Laying the value of a variable over itself changes nothing. -/
theorem nonEmpty?_kept (name : String) (shows : Shows next (d.functionEnvironment api))
    (kept : d.overlaid? api name = d.environment.nonEmpty? name)
    (undefined : find? name Environment.platform.reverse = none) :
    next.nonEmpty? name = d.environment.nonEmpty? name := by
  rw [Environment.nonEmpty?, get?_shown shows, kept, undefined, Option.or_none,
    Environment.nonEmpty?_or_get?, Environment.nonEmpty?]

theorem getD_nonEmpty?_untouched {default : String}
    (shows : Shows next (d.functionEnvironment api)) (untouched : d.overlaid? api name = none)
    (defined : find? name Environment.platform.reverse = some default) :
    (next.nonEmpty? name).getD default = (d.environment.nonEmpty? name).getD default := by
  rw [Environment.nonEmpty?, get?_shown shows, untouched, defined, Option.none_or,
    Environment.getD_filter_or, Environment.nonEmpty?]

end Descriptor

namespace Settings

open Environment (ofPairs ofBytes)
open Descriptor (Shows)

variable {env next : Environment} {settings : Settings} {bootstrap : Bootstrap}
  {api : Net.SocketAddress}

theorem LoadedFrom.version_ne (h : LoadedFrom env settings) : settings.version ≠ "" := by
  rw [h.version]
  exact Environment.getD_nonEmpty?_ne (by decide)

theorem LoadedFrom.name_ne (h : LoadedFrom env settings) : settings.name ≠ "" := by
  rw [h.name]
  exact Environment.getD_nonEmpty?_ne (by decide)

theorem LoadedFrom.handler_ne (h : LoadedFrom env settings) : settings.handler ≠ some "" := by
  rw [h.handler]
  intro empty
  rcases Option.or_eq_some_iff.1 empty with own | ⟨-, general⟩
  · exact (Environment.nonEmpty?_eq_some_iff.1 own).2 rfl
  · exact (Environment.nonEmpty?_eq_some_iff.1 general).2 rfl

/-- The handler is laid over the general variable if there is one. -/
theorem LoadedFrom.overlaid?_handler (h : LoadedFrom env settings) (bootstrap : Bootstrap)
    (api : Net.SocketAddress) :
    (Descriptor.build settings env bootstrap).overlaid? api "_HANDLER" = settings.handler := by
  cases chosen : settings.handler with
  | none => simp [Descriptor.overlaid?, Descriptor.build, chosen]
  | some text =>
    have ne : text ≠ "" := fun empty => h.handler_ne (by rw [chosen, empty])
    simp [Descriptor.overlaid?, Descriptor.build, chosen, ne]

/-- The general variable changes only where the function has a variable of its own for the
    handler. Otherwise it already has what is laid over it. -/
theorem LoadedFrom.get?_handler (h : LoadedFrom env settings) (bootstrap : Bootstrap)
    (api : Net.SocketAddress) :
    ((Descriptor.build settings env bootstrap).functionEnvironment api).get? "_HANDLER" =
      (env.nonEmpty? "AWS_LAMBDA_FUNCTION_HANDLER").or (env.get? "_HANDLER") := by
  rw [Descriptor.get?_functionEnvironment, h.overlaid?_handler, h.handler, Option.or_assoc]
  exact congrArg _ (Environment.nonEmpty?_or_get? env "_HANDLER")

theorem LoadedFrom.handler_again (h : LoadedFrom env settings)
    (shows : Shows next ((Descriptor.build settings env bootstrap).functionEnvironment api)) :
    settings.handler =
      (next.nonEmpty? "AWS_LAMBDA_FUNCTION_HANDLER").or (next.nonEmpty? "_HANDLER") := by
  have own : next.nonEmpty? "AWS_LAMBDA_FUNCTION_HANDLER" =
      env.nonEmpty? "AWS_LAMBDA_FUNCTION_HANDLER" :=
    Descriptor.nonEmpty?_untouched shows rfl rfl
  have general : next.get? "_HANDLER" =
      (env.nonEmpty? "AWS_LAMBDA_FUNCTION_HANDLER").or (env.get? "_HANDLER") := by
    rw [shows, h.get?_handler]
    exact Option.or_none
  rw [h.handler, own, Environment.nonEmpty?.eq_def next, general]
  cases env.nonEmpty? "AWS_LAMBDA_FUNCTION_HANDLER" <;> rfl

/-- Settings that were taken from an environment are taken again from what the function sees. -/
theorem LoadedFrom.again (h : LoadedFrom env settings)
    (shows : Shows next ((Descriptor.build settings env bootstrap).functionEnvironment api)) :
    LoadedFrom next settings where
  timeout := by
    rw [loadTimeout, Descriptor.nonEmpty?_untouched shows rfl rfl]
    exact h.timeout
  version := by rw [Descriptor.nonEmpty?_overlaid shows rfl h.version_ne]; rfl
  memory := h.memory.trans (Descriptor.getD_nonEmpty?_untouched shows rfl rfl).symm
  name := by rw [Descriptor.nonEmpty?_overlaid shows rfl h.name_ne]; rfl
  handler := h.handler_again shows
  accessKeyId := h.accessKeyId.trans
    (Descriptor.nonEmpty?_kept "AWS_ACCESS_KEY_ID" shows h.accessKeyId rfl).symm
  secretAccessKey := h.secretAccessKey.trans
    (Descriptor.nonEmpty?_kept "AWS_SECRET_ACCESS_KEY" shows h.secretAccessKey rfl).symm
  sessionToken := h.sessionToken.trans
    (Descriptor.nonEmpty?_kept "AWS_SESSION_TOKEN" shows h.sessionToken rfl).symm

/-- The variables that the start of a function may change. The credentials are not among them,
    because only their own values are laid over them. -/
def changedNames : List String :=
  ["AWS_LAMBDA_RUNTIME_API", "AWS_LAMBDA_FUNCTION_NAME", "AWS_LAMBDA_FUNCTION_VERSION",
    "AWS_XRAY_DAEMON_ADDRESS", "_HANDLER"]

theorem LoadedFrom.get?_unchanged (h : LoadedFrom env settings) (bootstrap : Bootstrap)
    (api : Net.SocketAddress) {name : String} (other : name ∉ changedNames) :
    ((Descriptor.build settings env bootstrap).functionEnvironment api).get? name =
      env.get? name := by
  have kept {value : Option String} (own : value = env.nonEmpty? name) :
      value.or (env.get? name) = env.get? name := by
    rw [own, Environment.nonEmpty?_or_get?]
  rw [Descriptor.get?_functionEnvironment]
  simp only [changedNames, List.mem_cons, not_or] at other
  by_cases access : name = "AWS_ACCESS_KEY_ID"
  · subst access
    exact kept h.accessKeyId
  by_cases secret : name = "AWS_SECRET_ACCESS_KEY"
  · subst secret
    exact kept h.secretAccessKey
  by_cases session : name = "AWS_SESSION_TOKEN"
  · subst session
    exact kept h.sessionToken
  have untouched : (Descriptor.build settings env bootstrap).overlaid? api name = none := by
    simp [Descriptor.overlaid?, other]
  rw [untouched, Option.none_or]
  rfl

/-- Settings that were taken from an environment come out again in the process of the function,
    whether it gets its variables as texts or as bytes. The variable of the address for fetching
    invocations has the given address whatever it was before. All other variables keep their values,
    but for those of the name, the version, the tracing daemon and the handler. -/
theorem load_functionEnvironment (loaded : load env = .ok settings) (bootstrap : Bootstrap)
    (api : Net.SocketAddress) :
    let child := (Descriptor.build settings env bootstrap).functionEnvironment api
    load (ofPairs child.toList) = .ok settings ∧
    load (ofBytes (child.toList.map fun pair =>
      (Text.Utf8.bytes pair.1, Text.Utf8.bytes pair.2))) = .ok settings ∧
    child.get? "AWS_LAMBDA_RUNTIME_API" = some api.render ∧
    child.get? "_HANDLER" =
      (env.nonEmpty? "AWS_LAMBDA_FUNCTION_HANDLER").or (env.get? "_HANDLER") ∧
    ∀ name, name ∉ changedNames → child.get? name = env.get? name := by
  intro child
  have h : LoadedFrom env settings := load_eq_ok_iff.1 loaded
  have again : load (ofPairs child.toList) = .ok settings :=
    load_eq_ok_iff.2 (h.again (Environment.get?_ofPairs_toList child))
  refine ⟨again, ?_, ?_, h.get?_handler bootstrap api, fun name other =>
    h.get?_unchanged bootstrap api other⟩
  · rw [Environment.ofBytes_bytes]
    exact again
  · exact Descriptor.get?_functionEnvironment _ api "AWS_LAMBDA_RUNTIME_API"

/-- An environment with a name that is set to the empty text, with both variables for the handler,
    and with an address for fetching invocations. -/
def staleEntries : List String :=
  ["AWS_LAMBDA_FUNCTION_NAME=", "_HANDLER=general", "AWS_LAMBDA_FUNCTION_HANDLER=own",
    "AWS_LAMBDA_RUNTIME_API=stale", "AWS_SESSION_TOKEN="]

theorem load_functionEnvironment_stale :
    let env := Environment.ofEntries staleEntries
    let settings := { default with handler := some "own" }
    let child := (Descriptor.build settings env .external).functionEnvironment (.loopback 9001)
    load env = .ok settings ∧ load (ofPairs child.toList) = .ok settings ∧
      child.get? "AWS_LAMBDA_RUNTIME_API" = some "127.0.0.1:9001" ∧
      child.get? "AWS_SESSION_TOKEN" = some "" := by
  intro env settings child
  have loaded : load env = .ok settings := by decide +kernel
  obtain ⟨again, -, address, -, unchanged⟩ :=
    load_functionEnvironment loaded .external (.loopback 9001)
  refine ⟨loaded, again, address.trans (by decide +kernel), ?_⟩
  rw [unchanged "AWS_SESSION_TOKEN" (by decide)]
  decide +kernel

end Settings

end FunctionHost
