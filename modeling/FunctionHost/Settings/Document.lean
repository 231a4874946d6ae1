-- SUMMARY: Settings as a JSON document, written and read.
import FunctionHost.Json.Parse
import FunctionHost.Json.Print
import FunctionHost.Settings.Basic

/-! # The settings document

Settings are written as an object with the time limit in whole seconds. A document is read by
name, or as an array of the values in the order of writing. What is missing keeps its default,
other names are passed over, and a name that belongs to a setting may occur only once. -/

namespace FunctionHost

/-- The document of credentials. -/
def Credentials.toJson (c : Credentials) : Json :=
  Json.ofMembers
    [ ("access_key_id", Json.ofText? c.accessKeyId),
      ("secret_access_key", Json.ofText? c.secretAccessKey),
      ("session_token", Json.ofText? c.sessionToken) ]

/-- The document of settings. -/
def Settings.toJson (s : Settings) : Json :=
  Json.ofMembers
    [ ("function_timeout", .number (Numeral.ofNat s.timeoutSeconds.toNat)),
      ("function_version", Json.ofText s.version),
      ("memory_size", Json.ofText s.memory),
      ("function_name", Json.ofText s.name),
      ("handler", Json.ofText? s.handler),
      ("credentials", s.credentials.toJson) ]

namespace Settings.Document

/-- The values that a document gives for the names of a record, in the order of these names. An
    object gives them by name, none of them twice, and an array by position, none too many. -/
def fields? (names : List String) : Json → Option (List (Option Json))
  | .object members =>
    if members.any (fun (name, _) => name.isNone) then none
    else if names.any (fun name => 1 < members.countP fun (key, _) => key == some name) then none
    else some (names.map fun name =>
      (members.find? fun (key, _) => key == some name).map Prod.snd)
  | .array elements =>
    if names.length < elements.length then none
    else some (names.zipIdx.map fun (_, i) => elements[i]?)
  | _ => none

/-- The value of a field, or the default when the document does not give it. -/
def orDefault {α : Type} (default : α) (read? : Json → Option α) : Option Json → Option α
  | none => some default
  | some v => read? v

/-- A text that may be null. -/
def nullableText? : Json → Option (Option String)
  | .null => some none
  | .string (some text) => some (some text)
  | _ => none

/-- A time limit in whole seconds below 2⁶⁴. -/
def timeout? : Json → Option Time.Span
  | .number n =>
    match n.natural? with
    | some seconds =>
      if seconds < UInt64.size then some (Time.Span.ofSeconds (UInt64.ofNat seconds)) else none
    | none => none
  | _ => none

/-- The credentials that a document gives. -/
def credentials? (v : Json) : Option Credentials := do
  match ← fields? ["access_key_id", "secret_access_key", "session_token"] v with
  | [accessKeyId, secretAccessKey, sessionToken] =>
    return {
      accessKeyId := ← orDefault none nullableText? accessKeyId
      secretAccessKey := ← orDefault none nullableText? secretAccessKey
      sessionToken := ← orDefault none nullableText? sessionToken }
  | _ => none

/-- The settings that a document gives. -/
def settings? (v : Json) : Option Settings := do
  let names := ["function_timeout", "function_version", "memory_size", "function_name",
    "handler", "credentials"]
  match ← fields? names v with
  | [timeout, version, memory, name, handler, credentials] =>
    return {
      timeout := ← orDefault default.timeout timeout? timeout
      version := ← orDefault default.version Json.text? version
      memory := ← orDefault default.memory Json.text? memory
      name := ← orDefault default.name Json.text? name
      handler := ← orDefault none nullableText? handler
      credentials := ← orDefault Credentials.none credentials? credentials }
  | _ => none

end Settings.Document

namespace Settings

/-- The settings that a JSON text stands for. -/
def ofText? (text : String) : Option Settings :=
  (Json.parse? text).bind Document.settings?

/-- The JSON text of settings. -/
def toText (s : Settings) : String :=
  s.toJson.render

end Settings

end FunctionHost
