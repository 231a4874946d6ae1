-- SUMMARY: The documents that explain what went wrong in a sandbox, and their descriptions.
import FunctionHost.Json.Parse
import FunctionHost.Json.Print
import FunctionHost.Text.Utf8

/-! # Error documents

What goes wrong in a sandbox is explained by a small JSON document with a type and a message. The
function may post such documents of its own, in any form, and they are described as well as they
allow. -/

namespace FunctionHost.Sandbox

/-- The document of an error. -/
def errorDocument (type message : String) : Bytes :=
  Text.Utf8.bytes
    (Json.ofMembers [("errorMessage", Json.ofText message), ("errorType", Json.ofText type)]).render

/-- The type of the error that the function exited. -/
def exitType : String := "Runtime.ExitError"

/-- The message about a function that exited. -/
def exitMessage (reason : String) : String :=
  "Runtime exited with error: " ++ reason

/-- The document for a start that failed because the function exited. -/
def startExitDocument (reason : String) : Bytes :=
  errorDocument exitType (exitMessage reason)

/-- The document for an invocation that failed because the function exited. -/
def exitDocument (id reason : String) : Bytes :=
  errorDocument exitType ("RequestId: " ++ id ++ " Error: " ++ exitMessage reason)

/-- The document for a bootstrap that could not be launched. -/
def launchDocument (message : String) : Bytes :=
  errorDocument "Runtime.InvalidEntrypoint" message

/-- A text member of a document. -/
def textMember? (name : String) (document : Json) : Option String :=
  (document.member? name).bind Json.text?

/-- The type and the message of a document that is JSON, with defaults for what it does not tell,
    or the whole of a document that is not. -/
def describeDocument (document : Bytes) : String :=
  match (Text.Utf8.text? document).bind Json.document? with
  | some v =>
    (textMember? "errorType" v).getD "UnknownError" ++ ": "
      ++ (textMember? "errorMessage" v).getD "Unknown error"
  | none => Text.Utf8.lossy document

end FunctionHost.Sandbox
