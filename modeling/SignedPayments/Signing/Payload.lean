import SignedPayments.Digest.Hmac
import SignedPayments.Http.Method
import SignedPayments.Json.Raw
import SignedPayments.Json.Writer

/-!
# SignedPayments.Signing.Payload

What is signed: a JSON object with the method, the url, the body and the time of a
request, in this order and without blanks. The body stands in it as it was
written. The signature of a payload is its HMAC-SHA256 code under the key, as text.
-/

namespace SignedPayments

namespace Signing

/-- The body in a payload. -/
def bodyChars (body : Option Json.Raw) : List Char := body.elim ['n', 'u', 'l', 'l'] (·.chars)

/-- The payload of a request, as characters. -/
def payloadChars (method : Http.Method) (url : String) (body : Option Json.Raw)
    (timestamp : String) : List Char :=
  "\x7b\"method\":".toList ++ Json.stringChars method.name.toUpper ++
  ",\"url\":".toList ++ Json.stringChars url ++
  ",\"body\":".toList ++ bodyChars body ++
  ",\"timestamp\":".toList ++ Json.stringChars timestamp ++ ['\x7d']

/-- The payload of a request. -/
def payload (method : Http.Method) (url : String) (body : Option Json.Raw) (timestamp : String) :
    String :=
  String.ofList (payloadChars method url body timestamp)

/-- The signature of a payload. -/
def signature (apiKey payload : String) : String :=
  hexHmacSha256 (Utf8.ofString apiKey) (Utf8.ofString payload)

end Signing

end SignedPayments
