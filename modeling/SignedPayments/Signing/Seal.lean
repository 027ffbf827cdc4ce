import SignedPayments.Credential
import SignedPayments.Log
import SignedPayments.Signing.Draft
import SignedPayments.Signing.Payload
import SignedPayments.Time.Timestamp

/-!
# SignedPayments.Signing.Seal

Puts a signature on a request. A sealed request has three headers: the key as a
bearer token, the time of signing, and the signature of the payload, which is made
of the method, the endpoint, the body and this time.
-/

namespace SignedPayments

open Http

namespace Signing

/-- What comes of sealing a head, and what is told meanwhile. -/
structure Sealed where
  result : Except Error Unit
  head : Head
  log : Log := []

/-- The error where no credential is given. -/
def missingCredential : Error := { kind := .credentialInvalid, message := "missing credential" }

/-- The error for a body that is no JSON text. -/
def bodyNotJson (fault : Json.Fault) : Error :=
  { kind := .requestInvalid
    message := "request body is not valid json"
    causes := [fault.text] }

/-- Reads the body that is signed, if there is one. -/
def readBody : Option Bytes → Except Error (Option Json.Raw)
  | none => .ok none
  | some bytes =>
    match Json.Raw.read bytes with
    | .ok raw => .ok (some raw)
    | .error fault => .error (bodyNotJson fault)

/-- What is told about a payload. -/
def payloadEntry (payload : String) : LogEntry := .debug ("payload to sign: " ++ payload)

/-- Sets the three headers. -/
def putHeaders (draft : Draft) (apiKey timestamp signature : String) : Except Fault Draft := do
  let draft ← draft.insertHeader .authorization ("Bearer " ++ apiKey) true
  let draft ← draft.insertHeader .timestamp timestamp false
  draft.insertHeader .signature signature false

/-- Seals a draft: signs its payload, sets the headers and finishes it. -/
def sealDraft (draft : Draft) (head : Head) (credential : Credential) (timestamp : String)
    (body : Option Json.Raw) : Sealed :=
  let url := head.signedEndpoint.getD draft.pathAndQuery
  let payload := payload draft.method url body timestamp
  let log := [payloadEntry payload]
  match putHeaders draft credential.apiKey timestamp (signature credential.apiKey payload) with
  -- The draft is lost, and with it the uri and the headers of the head.
  | .error fault => ⟨.error fault.error, head, log⟩
  | .ok draft =>
    let step := draft.finish head
    ⟨step.result, step.head, log⟩

/-- Seals a head with a credential, at a time. -/
def sealHead (credential : Option Credential) (now : Instant) (head : Head)
    (body : Option Bytes) : Sealed :=
  match credential with
  | none => ⟨.error missingCredential, head, []⟩
  | some credential =>
    match readBody body with
    -- Nothing has been taken out of the head yet.
    | .error e => ⟨.error e, head, []⟩
    | .ok body =>
      let step := Draft.start head
      match step.result with
      | .error e => ⟨.error e, step.head, []⟩
      | .ok draft => sealDraft draft step.head credential (Timestamp.format now) body

end Signing

end SignedPayments
