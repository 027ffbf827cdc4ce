import SignedPayments.Http.Head
import SignedPayments.Url.Basic

/-!
# SignedPayments.Delivery

Requests on their way out. The uri of a request is read as a url, and only urls of
two schemes can be sent, which must be uris again. A delivery that can be sent is
handed to the network, which is not described here.
-/

namespace SignedPayments

open Http

/-- A request whose uri is a url. -/
structure Delivery where
  method : Method
  url : Url
  headers : Headers
  body : Bytes

namespace Delivery

/-- The error for a request whose uri is no url. -/
def notAUrl (fault : Url.Fault) : Error :=
  { kind := .requestInvalid
    message := "failed to convert request for reqwest"
    causes := [fault.message] }

/-- The delivery of a request. -/
def ofRequest (request : Request) : Except Error Delivery :=
  match Url.ofUri request.head.uri with
  | .error fault => .error (notAUrl fault)
  | .ok url => .ok ⟨request.head.method, url, request.head.headers, request.body⟩

/-- The schemes that can be sent. -/
def schemes : List (List Char) := ["http".toList, "https".toList]

/-- The error for a delivery that is refused before a connection is made. -/
def unsendable (d : Delivery) (cause : String) : Error :=
  { kind := .transport
    message := "failed to send request: " ++ d.method.name ++ " " ++ d.url.text
    causes := [cause] }

/-- Why a delivery cannot be sent, if it cannot. Its url is read as a uri once more: what
was encoded is longer, and may be too long. -/
def refusal? (d : Delivery) : Option Error :=
  if schemes.contains d.url.scheme then
    match Uri.ofText d.url.text with
    | .ok _ => none
    | .error _ => some (d.unsendable "Parsed Url is not a valid Uri")
  else some (d.unsendable "URL scheme is not allowed")

end Delivery

end SignedPayments
