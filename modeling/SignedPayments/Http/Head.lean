import SignedPayments.Http.Header
import SignedPayments.Http.Uri

/-!
# SignedPayments.Http.Head

Requests. The head of a request is what is said before its body. It may also say,
to the signer only, for which endpoint the request is to be signed.
-/

namespace SignedPayments

namespace Http

/-- The head of a request. -/
structure Head where
  method : Method
  uri : Uri
  headers : Headers
  /-- The endpoint that is signed in place of the path and query of the uri. -/
  signedEndpoint : Option String := none
deriving DecidableEq

namespace Head

/-- Reads headers, and adds them to others. -/
def readHeaders (headers : Headers) : List (String × Bytes) → Except Fault Headers
  | [] => .ok headers
  | (name, value) :: rest => do
    let name ← HeaderName.ofText name
    let value ← HeaderValue.ofBytes value
    readHeaders (headers.append name value) rest

/-- Reads the parts of a head. The first one that cannot be read is told. -/
def read (method uri : String) (headers : List (String × Bytes)) : Except Fault Head := do
  let method ← Method.ofText method
  let uri ← Uri.ofText uri
  let headers ← readHeaders [] headers
  return { method, uri, headers }

end Head

/-- A request. -/
structure Request where
  head : Head
  body : Bytes
deriving DecidableEq

end Http

end SignedPayments
