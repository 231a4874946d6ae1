-- SUMMARY: Status codes of HTTP answers.

/-! # Status codes

A status is a number of three digits. -/

namespace FunctionHost.Http

/-- A status code of an answer. -/
structure Status where
  code : Nat
  lower : 100 ≤ code
  upper : code < 1000
  deriving DecidableEq

namespace Status

/-- The status with a given code, if it has three digits. -/
def ofNat? (code : Nat) : Option Status :=
  if h : 100 ≤ code ∧ code < 1000 then some ⟨code, h.1, h.2⟩ else none

/-- The request succeeded. -/
def ok : Status := ⟨200, by decide, by decide⟩

/-- The request was taken in. -/
def accepted : Status := ⟨202, by decide, by decide⟩

/-- The request makes no sense. -/
def badRequest : Status := ⟨400, by decide, by decide⟩

/-- There is nothing under the path. -/
def notFound : Status := ⟨404, by decide, by decide⟩

/-- The path does not know the method. -/
def methodNotAllowed : Status := ⟨405, by decide, by decide⟩

/-- The body is too large. -/
def payloadTooLarge : Status := ⟨413, by decide, by decide⟩

/-- Something went wrong inside. -/
def internalServerError : Status := ⟨500, by decide, by decide⟩

/-- Something went wrong in what the request was passed on to. -/
def badGateway : Status := ⟨502, by decide, by decide⟩

/-- What the request was passed on to gave no answer in time. -/
def gatewayTimeout : Status := ⟨504, by decide, by decide⟩

instance : Inhabited Status := ⟨ok⟩

end Status

end FunctionHost.Http
