import SignedPayments.Proofs.Signing.Payload
import SignedPayments.Proofs.Signing.Refusal

/-!
# SignedPayments.Proofs.Signing.Sealed

What sealing changes of a head, and what it does to a head that was sealed before.

* A head is taken apart into texts that are read again. What is read is what was sent, so
  only an empty query is lost, and a path is written where there was none
  (`Target.sent_of_ofText_sent`, `path_shownTarget`, `sentQuery_shownTarget`).
* Sealing sets its three headers in place of all that had their names, and no others
  (`sealedHeaders_eq`). The rest is `SealedFrom`.
* So a sealed head differs from the one before only in what sealing writes anew
  (`sealsAlike_sealedHead`): to seal it is to seal the one before (`sealHead_again`).
-/

namespace SignedPayments

open Http

namespace Signing

variable {head : Head}

/-! ### Headers -/

/-- The headers that sealing leaves. -/
def unsealedHeaders (headers : Headers) : Headers :=
  headers.filter fun header =>
    header.1 ≠ .authorization ∧ header.1 ≠ .timestamp ∧ header.1 ≠ .signature

section

variable {headers : Headers} {apiKey timestamp signature : String}

/-- Sealing puts its three headers after those that it leaves. -/
theorem sealedHeaders_eq :
    sealedHeaders headers apiKey timestamp signature = unsealedHeaders headers ++
      [(.authorization, ⟨Utf8.ofString ("Bearer " ++ apiKey), true⟩),
        (.timestamp, ⟨Utf8.ofString timestamp, false⟩),
        (.signature, ⟨Utf8.ofString signature, false⟩)] := by
  have hat : HeaderName.authorization ≠ .timestamp := by decide
  have has : HeaderName.authorization ≠ .signature := by decide
  have hts : HeaderName.timestamp ≠ .signature := by decide
  simp only [sealedHeaders, Headers.insert, Headers.append, Headers.erase, List.append_eq,
    List.filter_append, List.filter_filter, List.filter_cons, List.filter_nil, hat, has, hts,
    ne_eq, not_false_eq_true, decide_true, if_true, List.append_assoc, List.cons_append,
    List.nil_append, unsealedHeaders]
  congr 1
  apply List.filter_congr
  intro header _
  simp only [Bool.decide_and]
  grind

/-- Of headers that were sealed, sealing leaves what it left of them before. -/
theorem unsealedHeaders_sealedHeaders :
    unsealedHeaders (sealedHeaders headers apiKey timestamp signature) =
      unsealedHeaders headers := by
  rw [sealedHeaders_eq]
  simp [unsealedHeaders]

end

/-! ### What sealing changes -/

/-- What comes of a head that was sealed with a credential at a time: what it keeps, what it
has anew, and what was signed for it. -/
structure SealedFrom (c : Credential) (now : Instant) (head : Head) (body : Option Bytes)
    (done : Sealed) : Prop where
  method : done.head.method = head.method
  signedEndpoint : done.head.signedEndpoint = head.signedEndpoint
  scheme : done.head.uri.scheme = some (head.uri.scheme.getD .http)
  authority : done.head.uri.authority = head.uri.authority
  path : done.head.uri.path = if head.uri.path = "" then "/" else head.uri.path
  /-- An empty query is dropped. -/
  query : done.head.uri.query = head.uri.query.filter (· ≠ "")
  other_headers : ∀ name, name ≠ .authorization → name ≠ .timestamp → name ≠ .signature →
    done.head.headers.values name = head.headers.values name
  authorization : done.head.headers.values .authorization =
    [⟨Utf8.ofString ("Bearer " ++ c.apiKey), true⟩]
  timestamp : done.head.headers.values .timestamp = [⟨Utf8.ofString (Timestamp.format now), false⟩]
  /-- Where the head does not say otherwise, the url that is signed is the target of the uri
  that it has then. The payload has it in its place, and after it the body without the blanks
  around it. -/
  signed : ∃ raw, readBody body = .ok raw ∧
    let url := head.signedEndpoint.getD done.head.uri.target.text
    let payload := payload head.method url raw (Timestamp.format now)
    Utf8.ofString payload =
        payloadAround head.method url (bodyBytes body) (Timestamp.format now) ∧
      done.log = [payloadEntry payload] ∧
      done.head.headers.values .signature =
        [⟨Utf8.ofString (signature c.apiKey payload), false⟩]

/-- What is signed is told whether or not the headers can be set then. -/
theorem log_sealDraft (draft : Draft) (head : Head) (c : Credential) (timestamp : String)
    (raw : Option Json.Raw) :
    (sealDraft draft head c timestamp raw).log =
      [payloadEntry (payload draft.method (head.signedEndpoint.getD draft.pathAndQuery) raw
        timestamp)] := by
  unfold sealDraft
  dsimp only
  split <;> rfl

theorem log_sealHead {body : Option Bytes} {raw : Option Json.Raw} {authority : Authority}
    (hbody : readBody body = .ok raw) (hauthority : head.uri.authority = some authority)
    (c : Credential) (now : Instant) :
    (sealHead (some c) now head body).log =
      [payloadEntry (payload head.method (signedUrl head) raw (Timestamp.format now))] := by
  unfold sealHead
  simp only [hbody, Draft.start_of_authority hauthority]
  exact log_sealDraft _ _ c _ raw

/-- A head that was sealed has the seal in place of what had its names, a written path and no
empty query. All else is as before, and what was signed is what the head says now. -/
theorem sealedFrom_of_ok {c : Credential} {now : Instant} {body : Option Bytes}
    (h : (sealHead (some c) now head body).result = .ok ()) :
    SealedFrom c now head body (sealHead (some c) now head body) := by
  obtain ⟨_, raw, authority, target, ⟨⟩, hbody, hauthority, htarget, hhead⟩ := sealHead_inv h
  have hquery : target.query = (shownTarget head).sentQuery := (Target.ofText_sent_inv htarget).2
  have hpath : target.path = (shownTarget head).path := Target.path_of_ofText_sent htarget
  have hlog := log_sealHead hbody hauthority c now
  have hurl : head.signedEndpoint.getD target.text = signedUrl head := by
    rw [signedUrl, Target.text_of_ofText_sent htarget]
  constructor
  case method => rw [hhead]; rfl
  case signedEndpoint => rw [hhead]; rfl
  case scheme => rw [hhead]; rfl
  case authority => rw [hhead, hauthority]; rfl
  case path =>
    rw [hhead, ← path_shownTarget, ← hpath]
    simp [sealedHead, Uri.path, Uri.hasPath]
  case query =>
    rw [hhead, ← sentQuery_shownTarget, ← hquery]
    rfl
  case other_headers =>
    intro name ha ht hs
    rw [hhead]
    exact values_sealedHeaders_of_ne ha ht hs
  case authorization => rw [hhead]; exact values_sealedHeaders_authorization
  case timestamp => rw [hhead]; exact values_sealedHeaders_timestamp
  case signed =>
    refine ⟨raw, hbody, ?_⟩
    rw [hlog, hhead]
    dsimp only [sealedHead]
    rw [hurl]
    exact ⟨ofString_payload_of_readBody hbody _ _ _, rfl, values_sealedHeaders_signature⟩

/-- A head with an empty query, an answer that is accepted twice, and a key twice. -/
def repeatedHead : Head :=
  { method := .get
    uri := ⟨some .https, some ⟨"h"⟩, ⟨"", some "", rfl, rfl⟩⟩
    headers := [
      (.accept, ⟨Utf8.ofString "b", true⟩), (.authorization, ⟨Utf8.ofString "old", true⟩),
      (.accept, ⟨Utf8.ofString "a", false⟩), (.authorization, ⟨Utf8.ofString "older", false⟩)] }

theorem sealHead_repeated (now : Instant) :
    (sealHead (some ⟨"key"⟩) now repeatedHead none).result = .ok () := by
  refine sealHead_eq_ok_iff.mpr ⟨⟨none, rfl⟩, rfl, ?_, ?_⟩
  · exact ⟨_, HeaderValue.ofText_eq_ok_iff.mpr ⟨by decide, rfl⟩⟩
  · exact ⟨.root, by cbv⟩

/-- So of this head: the accepted answers stay as they are, one key is left, and the path that
was not written is. -/
theorem sealedFrom_of_ok_repeated : ∃ now done,
    sealHead (some ⟨"key"⟩) now repeatedHead none = done ∧ done.result = .ok () ∧
    SealedFrom ⟨"key"⟩ now repeatedHead none done ∧
    done.head.headers.values .accept =
      [⟨Utf8.ofString "b", true⟩, ⟨Utf8.ofString "a", false⟩] ∧
    done.head.headers.values .authorization = [⟨Utf8.ofString "Bearer key", true⟩] ∧
    done.head.uri.path = "/" ∧ done.head.uri.query = none := by
  let now : Instant := ⟨0, 0, by decide, by decide, by decide⟩
  have hresult := sealHead_repeated now
  have hdone := sealedFrom_of_ok hresult
  refine ⟨now, _, rfl, hresult, hdone, ?_, hdone.authorization, ?_, ?_⟩
  · rw [hdone.other_headers .accept (by decide) (by decide) (by decide)]
    rfl
  · rw [hdone.path]
    rfl
  · rw [hdone.query]
    rfl

/-! ### Sealing again -/

/-- Heads that sealing does not tell apart. -/
structure SealsAlike (head' head : Head) : Prop where
  method : head'.method = head.method
  signedEndpoint : head'.signedEndpoint = head.signedEndpoint
  scheme : head'.uri.scheme.getD .http = head.uri.scheme.getD .http
  authority : head'.uri.authority = head.uri.authority
  sent : (shownTarget head').sent = (shownTarget head).sent
  headers : unsealedHeaders head'.headers = unsealedHeaders head.headers

theorem Draft.uri_congr {draft draft' : Draft} (hscheme : draft'.scheme = draft.scheme)
    (hauthority : draft'.authority = draft.authority)
    (hpath : draft'.pathAndQuery = draft.pathAndQuery) : draft'.uri = draft.uri := by
  unfold Draft.uri
  rw [hscheme, hauthority, hpath]

theorem Draft.finish_congr {draft draft' : Draft} (hmethod : draft'.method = draft.method)
    (hheaders : draft'.headers = draft.headers) (huri : draft'.uri = draft.uri) (head : Head) :
    draft'.finish head = draft.finish head := by
  unfold finish
  rw [hmethod, hheaders, huri]

/-- Of the headers of a draft, only those matter that sealing leaves. -/
theorem sealDraft_congr {draft draft' : Draft} (head : Head) (c : Credential) (now : Instant)
    (body : Option Json.Raw) (hmethod : draft'.method = draft.method)
    (hscheme : draft'.scheme = draft.scheme) (hauthority : draft'.authority = draft.authority)
    (hpath : draft'.pathAndQuery = draft.pathAndQuery)
    (hheaders : unsealedHeaders draft'.headers = unsealedHeaders draft.headers) :
    sealDraft draft' head c (Timestamp.format now) body =
      sealDraft draft head c (Timestamp.format now) body := by
  have htimestamp := Timestamp.all_isValueByte_format now
  unfold sealDraft
  dsimp only
  rw [hmethod, hpath, putHeaders_eq draft' _ htimestamp (all_isValueByte_signature _ _),
    putHeaders_eq draft _ htimestamp (all_isValueByte_signature _ _)]
  cases HeaderValue.ofText ("Bearer " ++ c.apiKey) with
  | error fault => rfl
  | ok value =>
      have hfinish : ∀ headers, Draft.finish { draft' with headers := headers } head =
          Draft.finish { draft with headers := headers } head := by
        intro headers
        apply Draft.finish_congr
        · exact hmethod
        · rfl
        · exact Draft.uri_congr hscheme hauthority hpath
      dsimp only [Except.map]
      rw [sealedHeaders_eq, hheaders, ← sealedHeaders_eq, hfinish]

theorem sealHead_congr {head' : Head} (h : SealsAlike head' head) {authority : Authority}
    (hauthority : head.uri.authority = some authority) {body : Option Bytes}
    {raw : Option Json.Raw} (hbody : readBody body = .ok raw) (c : Credential) (now : Instant) :
    sealHead (some c) now head' body = sealHead (some c) now head body := by
  have hrest : ({ head' with uri := .root, headers := [] } : Head) =
      { head with uri := .root, headers := [] } := by
    rw [Head.mk.injEq]
    exact ⟨h.method, rfl, rfl, h.signedEndpoint⟩
  unfold sealHead
  simp only [hbody, Draft.start_of_authority hauthority,
    Draft.start_of_authority (h.authority.trans hauthority), hrest]
  exact sealDraft_congr _ c now raw h.method h.scheme rfl h.sent h.headers

/-- A sealed head is sealed like the one before. -/
theorem sealsAlike_sealedHead {authority : Authority} {target : Target}
    (hauthority : head.uri.authority = some authority)
    (htarget : Target.ofText (shownTarget head).sent = .ok target) (apiKey timestamp : String)
    (raw : Option Json.Raw) :
    SealsAlike (sealedHead head authority target apiKey timestamp raw) head where
  method := rfl
  signedEndpoint := rfl
  scheme := rfl
  authority := hauthority.symm
  sent := by
    rw [shownTarget_of_scheme rfl]
    exact Target.sent_of_ofText_sent htarget
  headers := unsealedHeaders_sealedHeaders

/-- Sealing a head that was sealed comes to the same as sealing the one before: it succeeds or
is refused alike, tells the same and leaves the same. So nothing of the earlier seal stays,
and with the same credential and time nothing changes. -/
theorem sealHead_again {c : Credential} {now : Instant} {body : Option Bytes}
    (h : (sealHead (some c) now head body).result = .ok ()) (c' : Credential) (now' : Instant) :
    sealHead (some c') now' (sealHead (some c) now head body).head body =
      sealHead (some c') now' head body := by
  obtain ⟨_, raw, authority, target, ⟨⟩, hbody, hauthority, htarget, hhead⟩ := sealHead_inv h
  rw [hhead]
  exact sealHead_congr (sealsAlike_sealedHead hauthority htarget _ _ raw) hauthority hbody c' now'

/-- So with another key at a later time: what comes of it is what they come to at once. -/
theorem sealHead_again_repeated : ∃ now now' first second, now ≠ now' ∧
    sealHead (some ⟨"key"⟩) now repeatedHead none = first ∧ first.result = .ok () ∧
    sealHead (some ⟨"other"⟩) now' first.head none = second ∧
    second = sealHead (some ⟨"other"⟩) now' repeatedHead none := by
  let now : Instant := ⟨0, 0, by decide, by decide, by decide⟩
  let now' : Instant := ⟨1, 0, by decide, by decide, by decide⟩
  exact ⟨now, now', _, _, by decide, rfl, sealHead_repeated now, rfl,
    sealHead_again (sealHead_repeated now) ⟨"other"⟩ now'⟩

end Signing

end SignedPayments
