import Mathlib
import SignedPayments.Proofs.Http.Uri
import SignedPayments.Proofs.Outcome
import SignedPayments.Signing.Seal

/-!
# SignedPayments.Proofs.Signing.Seal

What a sealed head is made of. Sealing takes a head apart, reads its target again and
puts all together; where it gives a result, that is `sealedHead` of its parts
(`sealHead_inv`). Nothing is told here about steps that fail but that they do.
-/

namespace SignedPayments

open Http

/-! ### Headers -/

theorem Http.HeaderValue.ofText_eq_ok_iff {text : String} {value : HeaderValue} :
    HeaderValue.ofText text = .ok value ↔
      (Utf8.ofString text).all isValueByte = true ∧ value = ⟨Utf8.ofString text, false⟩ := by
  unfold ofText ofBytes
  by_cases h : (Utf8.ofString text).all isValueByte = true
  · simp [h, eq_comm]
  · simp [h]

theorem Http.HeaderValue.eq_of_ofText_eq_error {text : String} {fault : Fault}
    (h : HeaderValue.ofText text = .error fault) : fault = .invalidHeaderValue := by
  unfold ofText ofBytes at h
  split at h
  · cases h
  · exact (Except.error.inj h).symm

namespace Signing

/-- When a header is set. -/
theorem Draft.insertHeader_eq_ok_iff {draft draft' : Draft} {name : HeaderName} {value : String}
    {sensitive : Bool} :
    draft.insertHeader name value sensitive = .ok draft' ↔
      (Utf8.ofString value).all HeaderValue.isValueByte = true ∧
        draft' =
          { draft with headers := draft.headers.insert name ⟨Utf8.ofString value, sensitive⟩ } := by
  unfold insertHeader
  simp only [bind_eq_ok, pure_eq_ok, HeaderValue.ofText_eq_ok_iff]
  constructor
  · rintro ⟨_, ⟨hvalue, rfl⟩, rfl⟩
    exact ⟨hvalue, rfl⟩
  · rintro ⟨hvalue, rfl⟩
    exact ⟨_, ⟨hvalue, rfl⟩, rfl⟩

/-- Headers with the three of a sealed request. -/
def sealedHeaders (headers : Headers) (apiKey timestamp signature : String) : Headers :=
  ((headers.insert .authorization ⟨Utf8.ofString ("Bearer " ++ apiKey), true⟩).insert
    .timestamp ⟨Utf8.ofString timestamp, false⟩).insert
    .signature ⟨Utf8.ofString signature, false⟩

section

variable {headers : Headers} {apiKey timestamp signature : String}

@[simp] theorem values_sealedHeaders_authorization :
    (sealedHeaders headers apiKey timestamp signature).values .authorization =
      [⟨Utf8.ofString ("Bearer " ++ apiKey), true⟩] := by
  unfold sealedHeaders
  rw [Headers.values_insert_of_ne _ _ (by decide), Headers.values_insert_of_ne _ _ (by decide),
    Headers.values_insert_self]

@[simp] theorem values_sealedHeaders_timestamp :
    (sealedHeaders headers apiKey timestamp signature).values .timestamp =
      [⟨Utf8.ofString timestamp, false⟩] := by
  unfold sealedHeaders
  rw [Headers.values_insert_of_ne _ _ (by decide), Headers.values_insert_self]

@[simp] theorem values_sealedHeaders_signature :
    (sealedHeaders headers apiKey timestamp signature).values .signature =
      [⟨Utf8.ofString signature, false⟩] :=
  Headers.values_insert_self _ _ _

/-- Sealing sets no other header. -/
theorem values_sealedHeaders_of_ne {name : HeaderName} (ha : name ≠ .authorization)
    (ht : name ≠ .timestamp) (hs : name ≠ .signature) :
    (sealedHeaders headers apiKey timestamp signature).values name = headers.values name := by
  unfold sealedHeaders
  rw [Headers.values_insert_of_ne _ _ hs, Headers.values_insert_of_ne _ _ ht,
    Headers.values_insert_of_ne _ _ ha]

end

/-- Where the three headers are set, they are those of a sealed request. -/
theorem putHeaders_inv {draft draft' : Draft} {apiKey timestamp signature : String}
    (h : putHeaders draft apiKey timestamp signature = .ok draft') :
    draft' = { draft with headers := sealedHeaders draft.headers apiKey timestamp signature } := by
  unfold putHeaders at h
  simp only [bind_eq_ok, Draft.insertHeader_eq_ok_iff] at h
  obtain ⟨_, ⟨-, rfl⟩, _, ⟨-, rfl⟩, -, rfl⟩ := h
  rfl

/-! ### Drafts -/

/-- The target that a head is taken apart with. Where it shows none, it is the root. -/
def shownTarget (head : Head) : Target := head.uri.target?.getD .root

/-- A uri with a scheme shows its own target. -/
theorem shownTarget_of_scheme {head : Head} (h : head.uri.scheme.isSome) :
    shownTarget head = head.uri.target := by
  simp [shownTarget, Uri.target?, Uri.hasPath, h]

theorem path_shownTarget (head : Head) :
    (shownTarget head).path = if head.uri.path = "" then "/" else head.uri.path := by
  unfold shownTarget Uri.target? Uri.path
  by_cases hpath : head.uri.hasPath = true
  · simp [hpath, Target.path_ne_empty]
  · simp only [hpath, Bool.false_eq_true, if_false, Option.getD_none, if_true]
    rfl

theorem sentQuery_shownTarget (head : Head) :
    (shownTarget head).sentQuery = head.uri.query.filter (· ≠ "") := by
  unfold shownTarget Uri.target? Uri.query Target.sentQuery
  by_cases hpath : head.uri.hasPath = true
  · simp [hpath]
  · -- A uri that shows no path has an empty target, so it has no query either.
    have hnone : head.uri.target.query = none := by
      simp only [Uri.hasPath, Target.isEmpty, Bool.or_eq_true, Bool.not_eq_true', not_or,
        Bool.not_eq_false, Bool.and_eq_true, Option.isNone_iff_eq_none] at hpath
      exact hpath.1.2
    simp [hpath, hnone, Target.root]

namespace Draft

/-- The draft of a head with an authority. -/
def ofHead (head : Head) (authority : Authority) : Draft :=
  { method := head.method
    scheme := head.uri.scheme.getD .http
    authority := authority
    path := (shownTarget head).path
    query := (shownTarget head).query
    headers := head.headers }

theorem pathAndQuery_ofHead (head : Head) (authority : Authority) :
    (ofHead head authority).pathAndQuery = (shownTarget head).sent := rfl

theorem start_of_authority {head : Head} {authority : Authority}
    (h : head.uri.authority = some authority) :
    start head = ⟨.ok (ofHead head authority), { head with uri := .root, headers := [] }⟩ := by
  unfold start
  simp only [h]
  rfl

theorem start_of_none {head : Head} (h : head.uri.authority = none) :
    start head = ⟨.error noAuthority, { head with uri := .root }⟩ := by
  unfold start
  simp only [h]

/-- The uri of a draft has its scheme and its authority. Its target is what is read
of the path and the query. -/
theorem uri_eq_ok_iff {draft : Draft} {uri : Uri} :
    draft.uri = .ok uri ↔ ∃ target, Target.ofText draft.pathAndQuery = .ok target ∧
      uri = ⟨some draft.scheme, some draft.authority, target⟩ := by
  unfold Draft.uri
  rw [bind_eq_ok]
  simp only [Uri.ofParts, Except.ok.injEq, Option.getD_some, eq_comm]

theorem finish_inv {draft : Draft} {head : Head} (h : (draft.finish head).result = .ok ()) :
    ∃ target, Target.ofText draft.pathAndQuery = .ok target ∧
      (draft.finish head).head =
        { head with
          method := draft.method
          uri := ⟨some draft.scheme, some draft.authority, target⟩
          headers := draft.headers } := by
  unfold finish at h ⊢
  cases huri : draft.uri with
  | error fault => simp [huri] at h
  | ok uri =>
      obtain ⟨target, htarget, rfl⟩ := uri_eq_ok_iff.mp huri
      exact ⟨target, htarget, rfl⟩

end Draft

/-! ### Sealing -/

/-- The url that is signed for a head: what it says, else its path and query. -/
def signedUrl (head : Head) : String := head.signedEndpoint.getD (shownTarget head).sent

/-- A head with the parts it is sealed with. -/
def sealedHead (head : Head) (authority : Authority) (target : Target) (apiKey timestamp : String)
    (body : Option Json.Raw) : Head :=
  { head with
    uri := ⟨some (head.uri.scheme.getD .http), some authority, target⟩
    headers := sealedHeaders head.headers apiKey timestamp
      (signature apiKey (payload head.method (signedUrl head) body timestamp)) }

/-- A draft is signed with its headers as they are before. -/
theorem sealDraft_inv {draft : Draft} {head : Head} {credential : Credential}
    {timestamp : String} {body : Option Json.Raw}
    (h : (sealDraft draft head credential timestamp body).result = .ok ()) :
    ∃ target, Target.ofText draft.pathAndQuery = .ok target ∧
      (sealDraft draft head credential timestamp body).head =
        { head with
          method := draft.method
          uri := ⟨some draft.scheme, some draft.authority, target⟩
          headers := sealedHeaders draft.headers credential.apiKey timestamp
            (signature credential.apiKey (payload draft.method
              (head.signedEndpoint.getD draft.pathAndQuery) body timestamp)) } := by
  unfold sealDraft at h ⊢
  cases hput : putHeaders draft credential.apiKey timestamp (signature credential.apiKey
      (payload draft.method (head.signedEndpoint.getD draft.pathAndQuery) body timestamp)) with
  | error fault => simp [hput] at h
  | ok draft' =>
      simp only [hput] at h ⊢
      obtain ⟨target, htarget, hhead⟩ := Draft.finish_inv h
      obtain rfl := putHeaders_inv hput
      exact ⟨target, htarget, hhead⟩

theorem readBody_some_inv {bytes : Bytes} {body : Option Json.Raw}
    (h : readBody (some bytes) = .ok body) :
    ∃ raw, Json.Raw.read bytes = .ok raw ∧ body = some raw := by
  unfold readBody at h
  dsimp only at h
  split at h
  · next raw hraw =>
    cases h
    exact ⟨raw, hraw, rfl⟩
  · cases h

/-- What a sealed head was sealed with. -/
theorem sealHead_inv {credential : Option Credential} {now : Instant} {head : Head}
    {body : Option Bytes} (h : (sealHead credential now head body).result = .ok ()) :
    ∃ c raw authority target, credential = some c ∧ readBody body = .ok raw ∧
      head.uri.authority = some authority ∧ Target.ofText (shownTarget head).sent = .ok target ∧
      (sealHead credential now head body).head =
        sealedHead head authority target c.apiKey (Timestamp.format now) raw := by
  unfold sealHead at h ⊢
  cases credential with
  | none => cases h
  | some c =>
      cases hbody : readBody body with
      | error e => simp [hbody] at h
      | ok raw =>
          cases hauthority : head.uri.authority with
          | none => simp [hbody, Draft.start_of_none hauthority] at h
          | some authority =>
              simp only [hbody, Draft.start_of_authority hauthority] at h ⊢
              obtain ⟨target, htarget, hhead⟩ := sealDraft_inv h
              rw [Draft.pathAndQuery_ofHead] at htarget hhead
              exact ⟨c, raw, authority, target, rfl, rfl, rfl, htarget, hhead⟩

end Signing

end SignedPayments
