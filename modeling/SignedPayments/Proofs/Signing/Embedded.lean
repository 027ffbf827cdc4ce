import SignedPayments.Proofs.Json.Written
import SignedPayments.Proofs.Signing.Payload
import SignedPayments.Proofs.Signing.Sealed

/-!
# SignedPayments.Proofs.Signing.Embedded

What a signature says of a body. The payload that is signed holds the bytes of the body, but
without the blanks around them (`ofString_payload_of_readBody`, `sign_binds_body`). So it holds the bytes as
they are given exactly if there is no blank at either end, and two bodies that differ in nothing
but such blanks are signed alike.
-/

namespace SignedPayments

open Http

namespace Signing

namespace Signer

variable {signer signer' : Signer} {env env' : Environment} {vault vault' : Vault}
  {now now' : Instant} {head head' : Head} {bytes bytes' : Bytes}

/-- A call signs a payload: it tells it last, and the signature that it sets is that of the
payload under the key it found. -/
structure Signs (signer : Signer) (env : Environment) (vault : Vault) (now : Instant)
    (head : Head) (body : Option Bytes) (payload : String) : Prop where
  told : ∃ earlier, (signer.sign env vault now head body).log = earlier ++ [payloadEntry payload]
  signed : ∃ c, (signer.credential env vault).1 = .ok c ∧
    (signer.sign env vault now head body).head.headers.values .signature =
      [⟨Utf8.ofString (signature c.apiKey payload), false⟩]

/-- What is signed is the payload of the head with the body that was kept. -/
theorem exists_signs {body : Option Bytes}
    (h : (signer.sign env vault now head body).result = .ok ()) :
    ∃ raw, readBody body = .ok raw ∧ signer.Signs env vault now head body
      (payload head.method (signedUrl head) raw (Timestamp.format now)) := by
  obtain ⟨c, hfound, hsealed, hhead⟩ := sign_inv h
  obtain ⟨_, raw, authority, target, ⟨⟩, hbody, hauthority, htarget, hsealedHead⟩ :=
    sealHead_inv hsealed
  refine ⟨raw, hbody, ?_, c, hfound, ?_⟩
  · unfold sign at h ⊢
    rcases hcredential : signer.credential env vault with ⟨result, vault', log⟩
    rw [hcredential] at hfound
    cases hfound
    exact ⟨log, congrArg (log ++ ·) (log_sealHead hbody hauthority c now)⟩
  · rw [hhead, hsealedHead]
    exact values_sealedHeaders_signature

/-- Of a call that was accepted, the payload that is signed holds the body without the blanks
around it: the bytes that were given exactly if there are none. So the payloads of two such
calls are the same exactly if they have the same method, url and time, and bodies that differ in
nothing but such blanks. -/
theorem sign_binds_body (h : (signer.sign env vault now head (some bytes)).result = .ok ())
    (h' : (signer'.sign env' vault' now' head' (some bytes')).result = .ok ()) :
    ∃ payload payload', signer.Signs env vault now head (some bytes) payload ∧
      signer'.Signs env' vault' now' head' (some bytes') payload' ∧
      Utf8.ofString payload =
        payloadAround head.method (signedUrl head) (Json.trim bytes) (Timestamp.format now) ∧
      (Utf8.ofString payload =
          payloadAround head.method (signedUrl head) bytes (Timestamp.format now) ↔
        (∀ b ∈ bytes.head?, Json.isBlankByte b = false) ∧
          ∀ b ∈ bytes.getLast?, Json.isBlankByte b = false) ∧
      (payload = payload' ↔ head.method.name.toUpper = head'.method.name.toUpper ∧
        signedUrl head = signedUrl head' ∧ Json.trim bytes = Json.trim bytes' ∧
        Timestamp.format now = Timestamp.format now') := by
  obtain ⟨body, hbody, hsigns⟩ := exists_signs h
  obtain ⟨body', hbody', hsigns'⟩ := exists_signs h'
  have hholds := ofString_payload_of_readBody hbody head.method (signedUrl head)
    (Timestamp.format now)
  refine ⟨_, _, hsigns, hsigns', ?_, ?_, ?_⟩
  · exact hholds
  · rw [hholds, payloadAround_inj]
    exact Json.trim_eq_self_iff
  · exact payload_eq_iff_of_readBody hbody hbody'

/-- A head that goes to `h`. -/
def plainHead : Head :=
  { method := .post, uri := ⟨some .https, some ⟨"h"⟩, .root⟩, headers := [] }

/-- A body that is a text is signed for it. -/
theorem sign_plainHead (now : Instant) {bytes : Bytes} {cs : List Char}
    (h : Json.Scan.accepts bytes = true) (hdecode : Utf8.decode? (Json.trim bytes) = some cs) :
    (Signer.sign ⟨.fixed "key"⟩ .empty {} now plainHead (some bytes)).result = .ok () := by
  have hfound : (Signer.credential ⟨.fixed "key"⟩ .empty {}).1 = .ok ⟨"key"⟩ := by cbv
  obtain ⟨raw, hraw⟩ := Json.Raw.exists_read h hdecode
  rw [(sign_of_ok hfound now plainHead _).1, sealHead_eq_ok_iff]
  refine ⟨⟨some raw, by simp [readBody, hraw]⟩, rfl, ?_, ?_⟩
  · exact ⟨_, HeaderValue.ofText_eq_ok_iff.mpr ⟨by decide, rfl⟩⟩
  · exact ⟨.root, by cbv⟩

/-- So a blank before a body is lost: with it and without it, one payload is signed, which does
not hold the bytes with the blank. -/
theorem sign_binds_body_blank : ∃ signer now payload,
    (Signer.sign signer .empty {} now plainHead (some [0x20, 0x7b, 0x7d])).result = .ok () ∧
    (signer.sign .empty {} now plainHead (some [0x7b, 0x7d])).result = .ok () ∧
    signer.Signs .empty {} now plainHead (some [0x20, 0x7b, 0x7d]) payload ∧
    signer.Signs .empty {} now plainHead (some [0x7b, 0x7d]) payload ∧
    Utf8.ofString payload ≠
      payloadAround plainHead.method (signedUrl plainHead) [0x20, 0x7b, 0x7d]
        (Timestamp.format now) := by
  let now : Instant := ⟨0, 0, by decide, by decide, by decide⟩
  have hdecode : Utf8.decode? [0x7b, 0x7d] = some ['\x7b', '\x7d'] :=
    Utf8.decode?_encode ['\x7b', '\x7d']
  have hblank := sign_plainHead now (by decide : Json.Scan.accepts [0x20, 0x7b, 0x7d] = true)
    hdecode
  have hplain := sign_plainHead now (by decide : Json.Scan.accepts [0x7b, 0x7d] = true)
    hdecode
  obtain ⟨payload, payload', hsigns, hsigns', -, hholds, hsame⟩ := sign_binds_body hblank hplain
  obtain rfl : payload = payload' := hsame.mpr ⟨rfl, rfl, by decide, rfl⟩
  refine ⟨_, now, payload, hblank, hplain, hsigns, hsigns', fun hbytes => ?_⟩
  exact absurd ((hholds.mp hbytes).1 0x20 rfl) (by decide)

end Signer

end Signing

end SignedPayments
