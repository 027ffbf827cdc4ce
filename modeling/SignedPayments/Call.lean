import SignedPayments.Http.Method
import SignedPayments.Json.Raw
import SignedPayments.Payment

/-!
# SignedPayments.Call

What can be asked of the service: a method, an endpoint below the address of the
service, and a body.
-/

namespace SignedPayments

/-- What is sent with a call. -/
inductive Body
  | payment (p : Payment)
  | refund (r : Refund)
  | json (value : Json.Value)
  /-- A JSON text, sent as it is written. -/
  | raw (text : Json.Raw)
  /-- A value that cannot be written as JSON. -/
  | unwritable (fault : Json.Fault)

namespace Body

/-- A value with a key that is no string. -/
def ofBadKey : Body := .unwritable ⟨.keyNotText, 0, 0⟩

/-- The bytes that are sent. -/
def write : Body → Except Json.Fault Bytes
  | .payment p => .ok (Utf8.encode p.chars)
  | .refund r => .ok (Utf8.encode r.chars)
  | .json value => .ok (Utf8.encode value.chars)
  | .raw text => .ok text.bytes
  | .unwritable fault => .error fault

end Body

/-- A call of the service. -/
structure Call where
  method : Http.Method
  /-- Where the call goes: a slash and what follows, taken as it is. -/
  endpoint : String
  body : Option Body := none

namespace Call

/-- The endpoint of payments. -/
def paymentsEndpoint : String := "/api/merchant/v1/payments"

/-- The endpoint of refunds. -/
def refundsEndpoint : String := "/api/merchant/v1/refunds"

/-- Asks for a payment. -/
def createPayment (p : Payment) : Call := ⟨.post, paymentsEndpoint, some (.payment p)⟩

/-- Asks how a payment stands. -/
def getPayment (paymentId : String) : Call :=
  ⟨.get, paymentsEndpoint ++ "/" ++ paymentId, none⟩

/-- Asks for a refund. -/
def createRefund (r : Refund) : Call := ⟨.post, refundsEndpoint, some (.refund r)⟩

end Call

end SignedPayments
