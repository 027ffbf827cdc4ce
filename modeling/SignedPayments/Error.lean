import SignedPayments.Text.Digits

/-!
# SignedPayments.Error

What can go wrong, as callers see it. The kind tells where a call stopped: before
a request left, on the way, or in what came back. An error of kind `api` carries
the status and the body of an answer that says no. `causes` gives the texts of
the faults behind an error, the nearest first.
-/

namespace SignedPayments

/-- The status code of an answer. -/
structure Status where
  code : Nat
deriving DecidableEq, Repr

namespace Status

/-- Codes from 200 to 299. -/
def isSuccess (s : Status) : Bool := 200 ≤ s.code && s.code < 300

/-- Codes from 400 to 499. -/
def isClientError (s : Status) : Bool := 400 ≤ s.code && s.code < 500

/-- Codes from 500 to 599. -/
def isServerError (s : Status) : Bool := 500 ≤ s.code && s.code < 600

end Status

/-- Where a call stopped. -/
inductive ErrorKind
  /-- There is no usable credential. -/
  | credentialInvalid
  /-- The request could not be built or signed. -/
  | requestInvalid
  /-- The configuration does not describe a client. -/
  | configInvalid
  /-- No answer was received. -/
  | transport
  /-- The answer has a status other than 200 to 299. -/
  | api
  /-- The answer has a good status, but its body cannot be read. -/
  | responseInvalid
  /-- Anything else. -/
  | unexpected
deriving DecidableEq, Repr

/-- A kind in words. -/
def ErrorKind.description : ErrorKind → String
  | .credentialInvalid => "invalid credentials"
  | .requestInvalid => "invalid request"
  | .configInvalid => "invalid configuration"
  | .transport => "transport error"
  | .api => "api error"
  | .responseInvalid => "invalid response"
  | .unexpected => "unexpected error"

/-- An error. -/
structure Error where
  kind : ErrorKind
  /-- What happened, in words. -/
  message : String
  /-- The status of the answer, if there was one. -/
  status : Option Status := none
  /-- The body of the answer, if the status was bad. -/
  body : Option String := none
  /-- The texts of the faults behind it, the nearest first. -/
  causes : List String := []
deriving DecidableEq, Repr

namespace Error

/-- Adds the status of an answer. -/
def withStatus (e : Error) (s : Status) : Error := { e with status := some s }

/-- Replaces the faults behind an error. -/
def withCauses (e : Error) (causes : List String) : Error := { e with causes := causes }

/-- An answer with a bad status. -/
def ofAnswer (status : Status) (body : String) : Error :=
  { kind := .api
    message := "API Error " ++ Digits.text status.code ++ ": " ++ body
    status := some status
    body := some body }

/-- A fault found while a request was built or signed. -/
def ofRequestFault (message : String) : Error :=
  { kind := .requestInvalid, message := message, causes := [message] }

/-- A fault from outside, with the faults behind it. -/
def ofForeign (message : String) (causes : List String) : Error :=
  { kind := .unexpected, message := message, causes := message :: causes }

/-! ### Tests on answers that say no -/

/-- Whether an error is an answer whose status satisfies `p`. -/
def answeredWith (e : Error) (p : Status → Bool) : Bool :=
  e.kind = .api && e.status.any p

/-- An answer with a status from 400 to 499. -/
def isClientError (e : Error) : Bool := e.answeredWith Status.isClientError

/-- An answer with a status from 500 to 599. -/
def isServerError (e : Error) : Bool := e.answeredWith Status.isServerError

/-- An answer with status 400. -/
def isBadRequest (e : Error) : Bool := e.answeredWith (·.code = 400)

/-- An answer with status 401. -/
def isUnauthorized (e : Error) : Bool := e.answeredWith (·.code = 401)

/-- An answer with status 429. -/
def isRateLimited (e : Error) : Bool := e.answeredWith (·.code = 429)

/-- No answer was received. -/
def isTransportError (e : Error) : Bool := e.kind = .transport

end Error

end SignedPayments
