import SignedPayments.Error

/-!
# SignedPayments.Http.Fault

Why a part of a request cannot be read.
-/

namespace SignedPayments

namespace Http

/-- What is wrong with a part of a request. -/
inductive Fault
  | invalidMethod
  | invalidHeaderName
  | invalidHeaderValue
  /-- A header value has bytes that are no visible ASCII. -/
  | headerValueNotText
  | uriTooLong
  | uriEmpty
  | invalidUriCharacter
  | invalidAuthority
  | invalidUriFormat
  | invalidScheme
  | schemeTooLong
  | pathWithoutSlash
  /-- A scheme needs an authority. -/
  | authorityMissing
  /-- A scheme and an authority need a path. -/
  | pathMissing
  /-- An authority and a path need a scheme. -/
  | schemeMissing
deriving DecidableEq, Repr

namespace Fault

/-- A fault in words. -/
def message : Fault → String
  | invalidMethod => "invalid HTTP method"
  | invalidHeaderName => "invalid HTTP header name"
  | invalidHeaderValue => "failed to parse header value"
  | headerValueNotText => "failed to convert header to a str"
  | uriTooLong => "uri too long"
  | uriEmpty => "empty string"
  | invalidUriCharacter => "invalid uri character"
  | invalidAuthority => "invalid authority"
  | invalidUriFormat => "invalid format"
  | invalidScheme => "invalid scheme"
  | schemeTooLong => "scheme too long"
  | pathWithoutSlash => "path does not start with slash"
  | authorityMissing => "authority missing"
  | pathMissing => "path missing"
  | schemeMissing => "scheme missing"

/-- A fault as an error. -/
def error (fault : Fault) : Error := .ofRequestFault fault.message

end Fault

/-- The error of a part that cannot be read. -/
def orError {α : Type} : Except Fault α → Except Error α
  | .ok a => .ok a
  | .error fault => .error fault.error

end Http

end SignedPayments
