import SignedPayments.Application
import SignedPayments.Bytes
import SignedPayments.Call
import SignedPayments.Client
import SignedPayments.Config
import SignedPayments.Context
import SignedPayments.Copies
import SignedPayments.Credential
import SignedPayments.Delivery
import SignedPayments.Digest.Hmac
import SignedPayments.Digest.Sha256
import SignedPayments.Error
import SignedPayments.Http.Fault
import SignedPayments.Http.Head
import SignedPayments.Http.Header
import SignedPayments.Http.Method
import SignedPayments.Http.Response
import SignedPayments.Http.Uri
import SignedPayments.Json.Fault
import SignedPayments.Json.Numeral
import SignedPayments.Json.Raw
import SignedPayments.Json.Reader
import SignedPayments.Json.Scan
import SignedPayments.Json.Token
import SignedPayments.Json.Value
import SignedPayments.Json.Writer
import SignedPayments.Log
import SignedPayments.Number.Binary64
import SignedPayments.Number.Power
import SignedPayments.Number.Shortest
import SignedPayments.Payment
import SignedPayments.Proofs.Application
import SignedPayments.Proofs.Client.Addressed
import SignedPayments.Proofs.Client.Admission
import SignedPayments.Proofs.Client.Alike
import SignedPayments.Proofs.Client.Answer
import SignedPayments.Proofs.Client.Authentic
import SignedPayments.Proofs.Client.Delivery
import SignedPayments.Proofs.Client.Destination
import SignedPayments.Proofs.Client.History
import SignedPayments.Proofs.Client.Lookup
import SignedPayments.Proofs.Client.Sent
import SignedPayments.Proofs.Client.Shown
import SignedPayments.Proofs.Copies
import SignedPayments.Proofs.Http.Appended
import SignedPayments.Proofs.Http.Reread
import SignedPayments.Proofs.Http.Uri
import SignedPayments.Proofs.Json.Ends
import SignedPayments.Proofs.Json.Quoting
import SignedPayments.Proofs.Json.Written
import SignedPayments.Proofs.Outcome
import SignedPayments.Proofs.Signing.Alike
import SignedPayments.Proofs.Signing.Caching
import SignedPayments.Proofs.Signing.Payload
import SignedPayments.Proofs.Signing.Refusal
import SignedPayments.Proofs.Signing.Seal
import SignedPayments.Proofs.Signing.Sealed
import SignedPayments.Proofs.Signing.Session
import SignedPayments.Proofs.Signing.Signer
import SignedPayments.Proofs.Signing.Traffic
import SignedPayments.Proofs.Text.Utf8
import SignedPayments.Proofs.Url.Basic
import SignedPayments.Provider
import SignedPayments.Signing.Draft
import SignedPayments.Signing.Payload
import SignedPayments.Signing.Seal
import SignedPayments.Signing.Session
import SignedPayments.Signing.Signer
import SignedPayments.Signing.Traffic
import SignedPayments.Text.Blank
import SignedPayments.Text.Canonical
import SignedPayments.Text.Canonical.Class
import SignedPayments.Text.Canonical.Composite
import SignedPayments.Text.Digits
import SignedPayments.Text.Direction
import SignedPayments.Text.Hex
import SignedPayments.Text.Invisible
import SignedPayments.Text.Joining
import SignedPayments.Text.Mark
import SignedPayments.Text.Pieces
import SignedPayments.Text.Quoted
import SignedPayments.Text.Ranges
import SignedPayments.Text.Redacted
import SignedPayments.Text.Utf8
import SignedPayments.Time.Calendar
import SignedPayments.Time.Instant
import SignedPayments.Time.Span
import SignedPayments.Time.Timestamp
import SignedPayments.Url.Address
import SignedPayments.Url.Basic
import SignedPayments.Url.Host
import SignedPayments.Url.Label
import SignedPayments.Url.Label.Allowed
import SignedPayments.Url.Path
import SignedPayments.Url.Percent
import SignedPayments.Url.Punycode
import SignedPayments.Proofs.Text.Blank
import SignedPayments.Proofs.Config
import SignedPayments.Proofs.Context
import SignedPayments.Proofs.Digest.Hmac
import SignedPayments.Proofs.Digest.Sha256
import SignedPayments.Proofs.Digest.Standard
import SignedPayments.Proofs.Text.Hex
import SignedPayments.Proofs.Text.Quoted
import SignedPayments.Proofs.Time.Calendar
import SignedPayments.Proofs.Time.Timestamp
import SignedPayments.Proofs.Json.Numbers
import SignedPayments.Proofs.Json.Distinct
import SignedPayments.Proofs.Payment
import SignedPayments.Proofs.Signing.Embedded
import SignedPayments.Proofs.Signing.Finished
import SignedPayments.Proofs.Client.Addressed
import SignedPayments.Proofs.Client.Shown
