import SignedPayments.Http.Head

/-!
# SignedPayments.Signing.Draft

A request head while it is signed. Starting a draft moves the uri and the headers
out of the head, and finishing it moves them back, so that at any time exactly one
of the two holds the headers. Both steps may fail halfway. The head that they leave
is part of their answer.
-/

namespace SignedPayments

open Http

namespace Signing

/-- A head taken apart. -/
structure Draft where
  method : Method
  scheme : Scheme
  authority : Authority
  /-- The path as it will be sent. -/
  path : String
  /-- The query as it will be sent. -/
  query : Option String
  headers : Headers
deriving DecidableEq

/-- What comes of a step that changes a head, whether it fails or not. -/
structure Step (α : Type) where
  result : Except Error α
  head : Head

namespace Draft

/-- The error for a head that does not say where it goes. -/
def noAuthority : Error :=
  { kind := .requestInvalid
    message := "request without authority is invalid for signing" }

/-- Starts a draft. The head is left with the root as its uri, and without headers
if the draft was started. -/
def start (head : Head) : Step Draft :=
  -- The uri is taken out before it is known whether it says where to go.
  let rest : Head := { head with uri := .root }
  match head.uri.authority with
  | none => ⟨.error noAuthority, rest⟩
  | some authority =>
    let target := head.uri.target?.getD .root
    let draft : Draft :=
      { method := head.method
        scheme := head.uri.scheme.getD .http
        authority := authority
        path := target.path
        query := target.query
        headers := head.headers }
    ⟨.ok draft, { rest with headers := [] }⟩

/-- The path and the query as they will be sent. An empty query counts as none. -/
def pathAndQuery (draft : Draft) : String :=
  match draft.query with
  | none => draft.path
  | some query => if query = "" then draft.path else draft.path ++ "?" ++ query

/-- The uri of a draft. -/
def uri (draft : Draft) : Except Fault Uri := do
  let target ← Target.ofText draft.pathAndQuery
  Uri.ofParts (some draft.scheme) (some draft.authority) (some target)

/-- Finishes a draft. Method and headers go back into the head in any case. -/
def finish (draft : Draft) (head : Head) : Step Unit :=
  let head : Head := { head with method := draft.method, headers := draft.headers }
  match draft.uri with
  | .error fault => ⟨.error fault.error, head⟩
  | .ok uri => ⟨.ok (), { head with uri := uri }⟩

/-- Gives a header one value in place of all earlier ones. -/
def insertHeader (draft : Draft) (name : HeaderName) (value : String) (sensitive : Bool) :
    Except Fault Draft := do
  let value ← HeaderValue.ofText value
  return { draft with headers := draft.headers.insert name { value with sensitive } }

end Draft

end Signing

end SignedPayments
