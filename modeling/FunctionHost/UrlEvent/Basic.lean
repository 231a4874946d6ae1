-- SUMMARY: The event that stands for an HTTP request sent to the address of a function.
import FunctionHost.Base64
import FunctionHost.Http.Message
import FunctionHost.Json.Print
import FunctionHost.UrlEvent.Headers

/-! # Events of function addresses

A request that is sent to the address of a function reaches it as a JSON document. The document
shows the method, the path, the query and the header fields, and carries the body in base64. -/

namespace FunctionHost

/-- An HTTP request as a function sees it. -/
structure UrlEvent where
  method : String
  rawPath : String
  rawQuery : String
  parameters : Dictionary String
  headers : Dictionary String
  domainName : String
  domainLabel : String
  body : String
  deriving DecidableEq

namespace UrlEvent

/-- The part of a host before its first dot, or nothing when it has none. -/
def firstLabel (host : String) : String :=
  let cs := host.toList
  if cs.contains '.' then String.ofList (cs.takeWhile (· ≠ '.')) else ""

/-- The host that a request was sent to: its first host field, or else the authority of its
    target. -/
def host (uri : Http.Uri) (headers : Http.Headers) : String :=
  match headers.first? hostName with
  | some value => Text.Utf8.lossy value
  | none => uri.authority.getD ""

/-- The event of a request whose path, after its first slash, reads `remainder` when decoded. -/
def ofParts (method : Http.Method) (remainder : String) (uri : Http.Uri) (headers : Http.Headers)
    (body : Bytes) : UrlEvent where
  method := method.name
  rawPath := "/" ++ remainder
  rawQuery := uri.queryText
  parameters := queryParameters uri.queryText
  headers := joinedHeaders headers
  domainName := host uri headers
  domainLabel := firstLabel (host uri headers)
  body := String.ofList (Base64.encode body)

/-- The object of texts by name. -/
def texts (d : Dictionary String) : Json :=
  Json.ofMembers (d.entries.map fun (name, value) => (name, Json.ofText value))

/-- The document of an event. -/
def toJson (e : UrlEvent) : Json :=
  Json.ofMembers
    [ ("method", Json.ofText e.method),
      ("rawPath", Json.ofText e.rawPath),
      ("rawQueryString", Json.ofText e.rawQuery),
      ("queryStringParameters", texts e.parameters),
      ("headers", texts e.headers),
      ("requestContext", Json.ofMembers
        [ ("domainName", Json.ofText e.domainName),
          ("domainPrefix", Json.ofText e.domainLabel),
          ("http", Json.ofMembers
            [ ("method", Json.ofText e.method),
              ("path", Json.ofText e.rawPath) ]) ]),
      ("body", Json.ofText e.body),
      ("isBase64Encoded", .bool true) ]

/-- The payload of an event: the bytes of its document. -/
def payload (e : UrlEvent) : Bytes :=
  Text.Utf8.encode e.toJson.print

/-- The body of the request that an event carries. -/
def decodedBody? (e : UrlEvent) : Option Bytes :=
  Base64.decode? e.body.toList

end UrlEvent

end FunctionHost
