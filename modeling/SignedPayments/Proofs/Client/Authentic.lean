import SignedPayments.Proofs.Client.Sent
import SignedPayments.Proofs.Signing.Payload

/-!
# SignedPayments.Proofs.Client.Authentic

A server that has the key can check every request on its own (`Client.sent_authentic`).
What it needs is in the request: the method, the time in its header, and the body.

* The body that is signed was read again from the bytes that are sent. Nothing that is
  written has blanks around it (`Body.trim_write`), so reading keeps all of these bytes, and
  the payload has them in the place of its body.
* The vault may have been used before, by the client or its copies, in any order. It can
  only keep the key of the client.
-/

namespace SignedPayments

open Http Signing

/-! ### Bodies -/

/-- What is written has no blanks around it. -/
theorem Body.trim_write {body : Body} {bytes : Bytes} (h : body.write = .ok bytes) :
    Json.trim bytes = bytes := by
  cases body with
  | payment p =>
      cases h
      exact Json.trim_encode_of_solid p.solid_chars
  | refund r =>
      cases h
      exact Json.trim_encode_of_solid r.solid_chars
  | json value =>
      cases h
      exact Json.trim_encode_of_solid value.solid_chars
  | raw text =>
      cases h
      exact text.trimmed
  | unwritable fault => cases h

/-- The body of a request as a server reads it. Where no bytes are sent, there is none. -/
def received (bytes : Bytes) : Except Error (Option Json.Raw) :=
  readBody (if bytes = [] then none else some bytes)

/-- The bytes of a request as they stand in the payload. -/
def spliced (bytes : Bytes) : Bytes := if bytes = [] then Utf8.ofString "null" else bytes

theorem writeBody_some_inv {body : Body} {bytes? : Option Bytes}
    (h : Client.writeBody (some body) = .ok bytes?) :
    ∃ bytes, body.write = .ok bytes ∧ bytes? = some bytes := by
  unfold Client.writeBody at h
  dsimp only at h
  split at h
  · next bytes hbytes =>
    cases h
    exact ⟨bytes, hbytes, rfl⟩
  · cases h

/-- A body that was written and read again is received as it was signed, and stands in the
payload with all of its bytes. -/
theorem received_of_written {body? : Option Body} {bytes? : Option Bytes}
    {raw? : Option Json.Raw} (hwritten : Client.writeBody body? = .ok bytes?)
    (hread : readBody bytes? = .ok raw?) :
    received (bytes?.getD []) = .ok raw? ∧ bodyBytes bytes? = spliced (bytes?.getD []) := by
  cases body? with
  | none =>
      cases hwritten
      cases hread
      exact ⟨rfl, rfl⟩
  | some body =>
      obtain ⟨bytes, hbytes, rfl⟩ := writeBody_some_inv hwritten
      obtain ⟨raw, hraw, -⟩ := readBody_some_inv hread
      have htrim := Body.trim_write hbytes
      have hne : bytes ≠ [] := by
        rw [← htrim, ← Json.Raw.bytes_of_read hraw]
        exact raw.bytes_ne_nil
      rw [Option.getD_some, received, spliced, if_neg hne, if_neg hne]
      exact ⟨hread, htrim⟩

/-! ### Requests that can be checked -/

/-- What a server checks that has the key, for a request to an endpoint: each of the three
headers is there once, with the key, the time, and the signature of what was received. -/
structure Authentic (apiKey endpoint timestamp : String) (request : Request) : Prop where
  authorization : request.head.headers.values .authorization =
    [⟨Utf8.ofString ("Bearer " ++ apiKey), true⟩]
  stamped : request.head.headers.values .timestamp = [⟨Utf8.ofString timestamp, false⟩]
  /-- In the payload, the body of the request stands with all of its bytes. Its signature is its
  code under the key, as hexadecimal digits. -/
  signed : ∃ body, received request.body = .ok body ∧
    let payload := Utf8.ofString (payload request.head.method endpoint body timestamp)
    payload = payloadAround request.head.method endpoint (spliced request.body) timestamp ∧
      request.head.headers.values .signature =
        [⟨Utf8.ofString (hexHmacSha256 (Utf8.ofString apiKey) payload), false⟩]

namespace Client

variable {client : Client} {context : Context} {vault : Vault} {now : Instant} {call : Call}
  {request : Request}

/-- A request can be checked with the credential that it was sealed with. -/
theorem Sends.authentic {c : Credential} {uri : Uri} {authority : Authority}
    {body : Option Bytes} {raw : Option Json.Raw} {target : Target}
    (h : Sends client now call c uri authority body raw target request) :
    Authentic c.apiKey call.endpoint (Timestamp.format now) request := by
  obtain ⟨hreceived, hspliced⟩ := received_of_written h.written h.read
  have hpayload := ofString_payload_of_readBody h.read call.method call.endpoint
    (Timestamp.format now)
  rw [hspliced] at hpayload
  rw [h.request_eq]
  exact
    { authorization := values_sealedHeaders_authorization
      stamped := values_sealedHeaders_timestamp
      signed := ⟨raw, hreceived, hpayload, values_sealedHeaders_signature⟩ }

/-- Whatever a client of a configuration sends can be checked with the key of the
configuration, at the time of the call. -/
theorem sent_authentic {config : Config} {apiKey : String} (hkey : config.apiKey = some apiKey)
    (hclient : ofConfig config = .ok client)
    (hvault : Vault.Reachable client.signer.provider vault)
    (hreceived : request ∈ (client.execute context vault now call).received) :
    Authentic apiKey call.endpoint (Timestamp.format now) request := by
  obtain ⟨key, hkey', -, hmade⟩ := ofConfig_eq_ok_iff.mp hclient
  obtain rfl : apiKey = key := Option.some.inj (hkey.symm.trans hkey')
  obtain ⟨-, rfl⟩ := withProvider_eq_ok_iff.mp hmade
  obtain ⟨c, uri, authority, body, raw, target, hfound, hsends⟩ := sends_of_received hreceived
  obtain rfl : c = ⟨apiKey⟩ :=
    Signer.of_credential_eq_ok (P := (· = ⟨apiKey⟩)) hvault (Provider.fixed_gives apiKey) hfound
  exact hsends.authentic

/-- So with a request that is not the first one, when the key is kept already. -/
theorem sent_authentic_kept :
    ∃ client now request,
      ofConfig { apiKey := some "key", baseUrl? := some "https://h/" } = .ok client ∧
      request ∈ (client.execute .empty (Vault.asked {} |>.keep ⟨"key"⟩) now
        ⟨.post, "/a", some (.json .null)⟩).received ∧
      Authentic "key" "/a" (Timestamp.format now) request := by
  let config : Config := { apiKey := some "key", baseUrl? := some "https://h/" }
  let client : Client := ⟨config.baseUrl, config.timeout, ⟨.fixed "key"⟩⟩
  let now : Instant := ⟨0, 0, by decide, by decide, by decide⟩
  have hbase : Uri.ofText config.baseUrl = .ok ⟨some .https, some ⟨"h"⟩, .empty⟩ := by cbv
  have hmade : ofConfig config = .ok client := ofConfig_of_base rfl (by decide) hbase rfl rfl
  have hvault : Vault.Reachable client.signer.provider (Vault.asked {} |>.keep ⟨"key"⟩) :=
    .keep (.asked .fresh) (show (Signer.accept (.fixed "key")
      ((Provider.fixed "key").load 0 .empty)).1 = .ok ⟨"key"⟩ from rfl)
  have hsome : (client.execute .empty (Vault.asked {} |>.keep ⟨"key"⟩) now
      ⟨.post, "/a", some (.json .null)⟩).sent.isSome = true := by
    decide +kernel
  obtain ⟨request, hreceived⟩ := exists_received hsome
  exact ⟨client, now, request, hmade, hreceived, sent_authentic rfl hmade hvault hreceived⟩

end Client

end SignedPayments
