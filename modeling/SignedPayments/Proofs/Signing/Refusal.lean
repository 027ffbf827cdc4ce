import SignedPayments.Proofs.Signing.Seal
import SignedPayments.Proofs.Signing.Signer
import SignedPayments.Proofs.Text.Digits
import SignedPayments.Proofs.Text.Hex
import SignedPayments.Proofs.Text.Utf8

/-!
# SignedPayments.Proofs.Signing.Refusal

How sealing is refused, and what it leaves of a head then.

* Of the three headers, only the one with the key can be refused: the text of a time and
  that of a signature are visible characters (`putHeaders_eq`).
* `Seals` lists what can come of sealing, by the step that refuses it, and this is all
  that can come of it (`seals_sealHead`).
* A head that was taken apart is not put together again when a later step is refused. So
  a refused call leaves its head as it was if it was refused before, and otherwise only
  where there was nothing to lose (`Signer.sign_leaves`).
-/

namespace SignedPayments

open Http

/-! ### Visible characters -/

/-- A character of ASCII that is seen, or a space. -/
def IsVisible (c : Char) : Prop := 0x20 ≤ c.toNat ∧ c.toNat < 0x7f

instance (c : Char) : Decidable (IsVisible c) := inferInstanceAs (Decidable (_ ∧ _))

/-- Visible characters can stand in the value of a header. -/
theorem Http.HeaderValue.all_isValueByte_of_visible {cs : List Char} (h : ∀ c ∈ cs, IsVisible c) :
    (Utf8.encode cs).all isValueByte = true := by
  induction cs with
  | nil => rfl
  | cons c cs ih =>
      obtain ⟨hlow, hhigh⟩ := h c List.mem_cons_self
      have hbyte : isValueByte (UInt8.ofNat c.toNat) = true := by
        simp only [isValueByte, Bool.or_eq_true, Bool.and_eq_true, decide_eq_true_eq, ne_eq,
          UInt8.le_iff_toNat_le, ← UInt8.toNat_inj, UInt8.toNat_ofNat', UInt8.reduceToNat]
        omega
      rw [Utf8.encode_cons, Utf8.encodeChar_ascii (by omega), List.all_append]
      simp [hbyte, ih fun d hd => h d (List.mem_cons_of_mem _ hd)]

namespace Timestamp

theorem isVisible_of_mem_padded {width n : Nat} : ∀ c ∈ Digits.padded width n, IsVisible c := by
  intro c hc
  have hdigit := Digits.isDigit_iff.mp (Digits.isDigit_of_mem_padded hc)
  unfold IsVisible
  omega

theorem isVisible_of_mem_yearText {year : Int} : ∀ c ∈ yearText year, IsVisible c := by
  intro c hc
  unfold yearText at hc
  split at hc
  · exact isVisible_of_mem_padded c hc
  · rcases List.mem_cons.mp hc with rfl | hc
    · split <;> decide
    · exact isVisible_of_mem_padded c hc

theorem isVisible_of_mem_chars (t : Instant) : ∀ c ∈ chars t, IsVisible c := by
  have hmarks : ∀ c ∈ ['-', 'T', ':', '.'], IsVisible c := by simp [IsVisible]
  intro c hc
  simp only [chars, List.mem_append, List.mem_cons] at hc
  have hcases : c ∈ yearText (Date.ofDays t.days).year ∨ c ∈ ['-', 'T', ':', '.'] ∨
      ∃ width n, c ∈ Digits.padded width n := by
    grind
  rcases hcases with hc | hc | ⟨width, n, hc⟩
  · exact isVisible_of_mem_yearText c hc
  · exact hmarks c hc
  · exact isVisible_of_mem_padded c hc

/-- The text of a time can stand in a header. -/
theorem all_isValueByte_format (t : Instant) :
    (Utf8.ofString (format t)).all HeaderValue.isValueByte = true := by
  rw [Utf8.ofString, format, String.toList_ofList]
  exact HeaderValue.all_isValueByte_of_visible (isVisible_of_mem_chars t)

end Timestamp

theorem Hex.isVisible_of_mem_digits {bytes : Bytes} : ∀ c ∈ digits bytes, IsVisible c := by
  intro c hc
  have hdigit : ∀ n < 16, IsVisible (digit n) := by decide
  obtain ⟨n, hn, rfl⟩ := exists_of_mem_digits hc
  exact hdigit n hn

namespace Signing

/-- A signature can stand in a header. -/
theorem all_isValueByte_signature (apiKey payload : String) :
    (Utf8.ofString (signature apiKey payload)).all HeaderValue.isValueByte = true := by
  rw [Utf8.ofString, signature, hexHmacSha256, Hex.encode, String.toList_ofList]
  exact HeaderValue.all_isValueByte_of_visible Hex.isVisible_of_mem_digits

/-! ### Steps -/

theorem Draft.insertHeader_eq (draft : Draft) (name : HeaderName) (value : String)
    (sensitive : Bool) :
    draft.insertHeader name value sensitive = (HeaderValue.ofText value).map fun value =>
      { draft with headers := draft.headers.insert name { value with sensitive } } := by
  unfold insertHeader
  cases HeaderValue.ofText value <;> rfl

/-- Setting the three headers is refused exactly if the key is, where the two others can
stand in a header. -/
theorem putHeaders_eq (draft : Draft) (apiKey : String) {timestamp signature : String}
    (htimestamp : (Utf8.ofString timestamp).all HeaderValue.isValueByte = true)
    (hsignature : (Utf8.ofString signature).all HeaderValue.isValueByte = true) :
    putHeaders draft apiKey timestamp signature =
      (HeaderValue.ofText ("Bearer " ++ apiKey)).map fun _ =>
        { draft with headers := sealedHeaders draft.headers apiKey timestamp signature } := by
  have htime : HeaderValue.ofText timestamp = .ok ⟨Utf8.ofString timestamp, false⟩ :=
    HeaderValue.ofText_eq_ok_iff.mpr ⟨htimestamp, rfl⟩
  have hcode : HeaderValue.ofText signature = .ok ⟨Utf8.ofString signature, false⟩ :=
    HeaderValue.ofText_eq_ok_iff.mpr ⟨hsignature, rfl⟩
  unfold putHeaders
  simp only [Draft.insertHeader_eq, htime, hcode]
  cases hkey : HeaderValue.ofText ("Bearer " ++ apiKey) with
  | error fault => rfl
  | ok value =>
      obtain ⟨-, rfl⟩ := HeaderValue.ofText_eq_ok_iff.mp hkey
      rfl

/-- Finishing a draft is refused if its target cannot be read. -/
theorem Draft.finish_of_error {draft : Draft} {fault : Fault}
    (h : Target.ofText draft.pathAndQuery = .error fault) (head : Head) :
    draft.finish head =
      ⟨.error fault.error, { head with method := draft.method, headers := draft.headers }⟩ := by
  have huri : draft.uri = .error fault := by
    unfold Draft.uri
    rw [h]
    rfl
  unfold finish
  rw [huri]

/-- Otherwise the head has what the draft has. -/
theorem Draft.finish_of_ok {draft : Draft} {target : Target}
    (h : Target.ofText draft.pathAndQuery = .ok target) (head : Head) :
    draft.finish head = ⟨.ok (), { head with
      method := draft.method
      uri := ⟨some draft.scheme, some draft.authority, target⟩
      headers := draft.headers }⟩ := by
  have huri : draft.uri = .ok ⟨some draft.scheme, some draft.authority, target⟩ :=
    uri_eq_ok_iff.mpr ⟨target, h, rfl⟩
  unfold finish
  rw [huri]

/-! ### All that can come of sealing -/

/-- The headers that a head is sealed with. -/
def headersOf (head : Head) (c : Credential) (now : Instant) (body : Option Json.Raw) : Headers :=
  sealedHeaders head.headers c.apiKey (Timestamp.format now)
    (signature c.apiKey (payload head.method (signedUrl head) body (Timestamp.format now)))

/-- What can come of sealing a head, and what is left of the head. -/
inductive Seals (now : Instant) (head : Head) (body : Option Bytes) :
    Option Credential → Except Error Unit → Head → Prop
  /-- There is no credential. -/
  | noCredential : Seals now head body none (.error missingCredential) head
  /-- The body cannot be read. -/
  | badBody {c : Credential} {e : Error} (hbody : readBody body = .error e) :
      Seals now head body (some c) (.error e) head
  /-- The head does not say where it goes. -/
  | noAuthority {c : Credential} {raw : Option Json.Raw} (hbody : readBody body = .ok raw)
      (hauthority : head.uri.authority = none) :
      Seals now head body (some c) (.error Draft.noAuthority) { head with uri := .root }
  /-- The key cannot stand in a header. -/
  | badKey {c : Credential} {raw : Option Json.Raw} {authority : Authority} {fault : Fault}
      (hbody : readBody body = .ok raw) (hauthority : head.uri.authority = some authority)
      (hkey : HeaderValue.ofText ("Bearer " ++ c.apiKey) = .error fault) :
      Seals now head body (some c) (.error fault.error) { head with uri := .root, headers := [] }
  /-- The target cannot be read again. -/
  | badTarget {c : Credential} {raw : Option Json.Raw} {authority : Authority}
      {value : HeaderValue} {fault : Fault} (hbody : readBody body = .ok raw)
      (hauthority : head.uri.authority = some authority)
      (hkey : HeaderValue.ofText ("Bearer " ++ c.apiKey) = .ok value)
      (htarget : Target.ofText (shownTarget head).sent = .error fault) :
      Seals now head body (some c) (.error fault.error)
        { head with uri := .root, headers := headersOf head c now raw }
  /-- Nothing is refused. -/
  | sealed {c : Credential} {raw : Option Json.Raw} {authority : Authority}
      {value : HeaderValue} {target : Target} (hbody : readBody body = .ok raw)
      (hauthority : head.uri.authority = some authority)
      (hkey : HeaderValue.ofText ("Bearer " ++ c.apiKey) = .ok value)
      (htarget : Target.ofText (shownTarget head).sent = .ok target) :
      Seals now head body (some c) (.ok ())
        (sealedHead head authority target c.apiKey (Timestamp.format now) raw)

theorem seals_sealHead (credential : Option Credential) (now : Instant) (head : Head)
    (body : Option Bytes) :
    Seals now head body credential (sealHead credential now head body).result
      (sealHead credential now head body).head := by
  unfold sealHead
  cases credential with
  | none => exact .noCredential
  | some c =>
      cases hbody : readBody body with
      | error e => exact .badBody hbody
      | ok raw =>
          cases hauthority : head.uri.authority with
          | none =>
              simp only [Draft.start_of_none hauthority]
              exact .noAuthority hbody hauthority
          | some authority =>
              simp only [Draft.start_of_authority hauthority]
              unfold sealDraft
              dsimp only
              rw [putHeaders_eq _ _ (Timestamp.all_isValueByte_format now)
                (all_isValueByte_signature _ _)]
              cases hkey : HeaderValue.ofText ("Bearer " ++ c.apiKey) with
              | error fault => exact .badKey hbody hauthority hkey
              | ok value =>
                  dsimp only [Except.map]
                  -- The headers of a draft do not matter for its target.
                  have hpath : ∀ headers, Draft.pathAndQuery
                      { Draft.ofHead head authority with headers := headers } =
                        (shownTarget head).sent := fun _ => rfl
                  cases htarget : Target.ofText (shownTarget head).sent with
                  | error fault =>
                      rw [Draft.finish_of_error ((congrArg Target.ofText (hpath _)).trans htarget)]
                      exact .badTarget hbody hauthority hkey htarget
                  | ok target =>
                      rw [Draft.finish_of_ok ((congrArg Target.ofText (hpath _)).trans htarget)]
                      exact .sealed hbody hauthority hkey htarget

section

variable {credential : Option Credential} {now : Instant} {head : Head} {body : Option Bytes}
  {result : Except Error Unit} {left : Head} {c : Credential} {e : Error}

theorem Seals.eq_ok_iff (h : Seals now head body (some c) result left) :
    result = .ok () ↔ (∃ raw, readBody body = .ok raw) ∧ head.uri.authority.isSome ∧
      (∃ value, HeaderValue.ofText ("Bearer " ++ c.apiKey) = .ok value) ∧
      ∃ target, Target.ofText (shownTarget head).sent = .ok target := by
  cases h with
  | badBody hbody => simp [hbody]
  | noAuthority hbody hauthority => simp [hauthority]
  | badKey hbody hauthority hkey => simp [hkey]
  | badTarget hbody hauthority hkey htarget => simp [htarget]
  | sealed hbody hauthority hkey htarget => simp [hbody, hauthority, hkey, htarget]

/-- A head is sealed if its body can be read, it says where it goes, the key can stand in a
header, and its target can be read again. -/
theorem sealHead_eq_ok_iff : (sealHead (some c) now head body).result = .ok () ↔
    (∃ raw, readBody body = .ok raw) ∧ head.uri.authority.isSome ∧
      (∃ value, HeaderValue.ofText ("Bearer " ++ c.apiKey) = .ok value) ∧
      ∃ target, Target.ofText (shownTarget head).sent = .ok target :=
  (seals_sealHead (some c) now head body).eq_ok_iff

/-- An error of a request that was refused: it tells of no answer. -/
structure IsRefusal (e : Error) : Prop where
  kind : e.kind = .requestInvalid
  status : e.status = none
  body : e.body = none

theorem isRefusal_fault (fault : Fault) : IsRefusal fault.error := ⟨rfl, rfl, rfl⟩

theorem isRefusal_of_readBody (h : readBody body = .error e) : IsRefusal e := by
  unfold readBody at h
  split at h
  · cases h
  split at h
  · cases h
  · cases h
    exact ⟨rfl, rfl, rfl⟩

theorem Seals.isRefusal (h : Seals now head body (some c) (.error e) left) : IsRefusal e := by
  cases h with
  | badBody hbody => exact isRefusal_of_readBody hbody
  | noAuthority _ _ => exact ⟨rfl, rfl, rfl⟩
  | badKey _ _ _ => exact isRefusal_fault _
  | badTarget _ _ _ _ => exact isRefusal_fault _

/-- With a credential, it is the request that is refused. -/
theorem isRefusal_of_sealHead (h : (sealHead (some c) now head body).result = .error e) :
    IsRefusal e :=
  Seals.isRefusal (h ▸ seals_sealHead (some c) now head body)

/-! ### What is left -/

/-- What is left of a head that was not sealed. Only the uri and the headers may differ
from what they were. -/
structure Left (now : Instant) (head : Head) (body : Option Bytes)
    (credential : Option Credential) (left : Head) : Prop where
  method : left.method = head.method
  signedEndpoint : left.signedEndpoint = head.signedEndpoint
  /-- The head is as it was if it was not taken apart, or showed nothing that could be lost. -/
  same_iff : left = head ↔
    credential = none ∨ (∃ e, readBody body = .error e) ∨ head.uri = .root
  uri : left ≠ head → left.uri = .root
  headers_kept : credential = none ∨ (∃ e, readBody body = .error e) ∨
    head.uri.authority = none → left.headers = head.headers
  headers_lost : ∀ c raw authority fault, credential = some c → readBody body = .ok raw →
    head.uri.authority = some authority →
    HeaderValue.ofText ("Bearer " ++ c.apiKey) = .error fault → left.headers = []
  headers_sealed : ∀ c raw authority value, credential = some c → readBody body = .ok raw →
    head.uri.authority = some authority →
    HeaderValue.ofText ("Bearer " ++ c.apiKey) = .ok value →
    left.headers = headersOf head c now raw

theorem Seals.leaves (h : Seals now head body credential (.error e) left) :
    Left now head body credential left := by
  have hroot : ∀ authority, head.uri.authority = some authority → head.uri ≠ .root := by
    intro authority hauthority hroot
    rw [hroot] at hauthority
    cases hauthority
  cases h with
  | noCredential =>
      exact ⟨rfl, rfl, by simp, fun hne => absurd rfl hne, fun _ => rfl, by simp, by simp⟩
  | badBody hbody =>
      exact ⟨rfl, rfl, by simp [hbody], fun hne => absurd rfl hne, fun _ => rfl, by simp [hbody],
        by simp [hbody]⟩
  | noAuthority hbody hauthority =>
      refine ⟨rfl, rfl, ⟨fun hsame => ?_, fun hrefused => ?_⟩, fun _ => rfl, fun _ => rfl,
        by simp [hauthority], by simp [hauthority]⟩
      · exact .inr (.inr (congrArg Head.uri hsame).symm)
      · have hsame : head.uri = .root := by simpa [hbody] using hrefused
        rw [← hsame]
  | @badKey c raw authority fault hbody hauthority hkey =>
      refine ⟨rfl, rfl, ⟨fun hsame => ?_, fun hrefused => ?_⟩, fun _ => rfl,
        by simp [hbody, hauthority], fun _ _ _ _ _ _ _ _ => rfl, ?_⟩
      · exact absurd (congrArg Head.uri hsame).symm (hroot authority hauthority)
      · exact absurd (by simpa [hbody] using hrefused) (hroot authority hauthority)
      · rintro _ _ _ _ ⟨⟩ - - hvalue
        rw [hkey] at hvalue
        cases hvalue
  | @badTarget c raw authority value fault hbody hauthority hkey htarget =>
      refine ⟨rfl, rfl, ⟨fun hsame => ?_, fun hrefused => ?_⟩, fun _ => rfl,
        by simp [hbody, hauthority], ?_, ?_⟩
      · exact absurd (congrArg Head.uri hsame).symm (hroot authority hauthority)
      · exact absurd (by simpa [hbody] using hrefused) (hroot authority hauthority)
      · rintro _ _ _ _ ⟨⟩ - - hfault
        rw [hkey] at hfault
        cases hfault
      · rintro _ raw' _ _ ⟨⟩ hraw - -
        rw [hbody] at hraw
        cases hraw
        rfl

theorem left_sealHead (h : (sealHead credential now head body).result = .error e) :
    Left now head body credential (sealHead credential now head body).head :=
  Seals.leaves (h ▸ seals_sealHead credential now head body)

end

/-- What a refused call leaves of its head, with a credential that is given and with one
that a signer finds. A head with an authority is lost in part whenever something is refused
after its body was read: the uri, and with a key that cannot stand in a header the headers
too. -/
theorem Signer.sign_leaves (signer : Signer) (env : Environment) (vault : Vault) (now : Instant)
    (head : Head) (body : Option Bytes) :
    (∀ credential e, (sealHead credential now head body).result = .error e →
      Left now head body credential (sealHead credential now head body).head) ∧
    (∀ e, (signer.sign env vault now head body).result = .error e →
      Left now head body (signer.credential env vault).1.toOption
        (signer.sign env vault now head body).head) := by
  refine ⟨fun credential e h => left_sealHead h, fun e h => ?_⟩
  cases hfound : (signer.credential env vault).1 with
  | error e' =>
      rw [(sign_of_error hfound now head body).2]
      exact Seals.leaves .noCredential
  | ok c =>
      obtain ⟨hresult, hhead⟩ := sign_of_ok hfound now head body
      rw [hresult] at h
      rw [hhead]
      exact left_sealHead h

/-- So with a key of two lines, which no header can hold: uri and headers are gone. -/
theorem Signer.sign_leaves_nothing : ∃ signer now head e left,
    Signer.sign signer .empty {} now head none = left ∧ left.result = .error e ∧
      Left now head none (some ⟨"two\nlines"⟩) left.head ∧
      left.head.uri = .root ∧ left.head.headers = [] ∧
      head.uri = ⟨some .https, some ⟨"h"⟩, .root⟩ ∧ head.headers ≠ [] := by
  let signer : Signer := ⟨.fixed "two\nlines"⟩
  let now : Instant := ⟨0, 0, by decide, by decide, by decide⟩
  let head : Head :=
    { method := .get
      uri := ⟨some .https, some ⟨"h"⟩, .root⟩
      headers := [(.accept, ⟨Utf8.ofString "*/*", false⟩)] }
  have hkey : HeaderValue.ofText ("Bearer " ++ "two\nlines") = .error .invalidHeaderValue := by
    cbv
  have hresult : (signer.sign .empty {} now head none).result =
      .error Fault.invalidHeaderValue.error := by
    rfl
  have hleft : Left now head none (some ⟨"two\nlines"⟩)
      (signer.sign .empty {} now head none).head :=
    (Signer.sign_leaves signer .empty {} now head none).2 _ hresult
  have hheaders : (signer.sign .empty {} now head none).head.headers = [] :=
    hleft.headers_lost _ none _ _ rfl rfl rfl hkey
  have hne : (signer.sign .empty {} now head none).head ≠ head := by
    intro hsame
    rw [hsame] at hheaders
    cases hheaders
  exact ⟨signer, now, head, _, _, rfl, hresult, hleft, hleft.uri hne, hheaders, rfl, by simp [head]⟩

end Signing

end SignedPayments
