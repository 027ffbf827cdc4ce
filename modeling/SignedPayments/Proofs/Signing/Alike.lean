import SignedPayments.Proofs.Outcome
import SignedPayments.Proofs.Signing.Refusal

/-!
# SignedPayments.Proofs.Signing.Alike

Two signers whose keys differ, seen from outside. Keys are alike if their ends are the same, as
far as these are shown, and a header can hold both or neither (`KeyAlike`). What has keys is alike if it is the same
apart from them.

Signers that are alike, with vaults that are alike, come to the same outcome, tell the same
and leave vaults that are alike (`Signer.sign_alike`). The heads that they seal differ.
-/

namespace SignedPayments

open Http Signing

/-! ### Keys -/

namespace Redacted

variable {a b : String} {first last : List Char}

theorem ofSecret_eq_empty_iff : ofSecret a = .empty ↔ a = "" := by
  unfold ofSecret
  by_cases hempty : a = ""
  · simp [hempty]
  · by_cases hshort : a.toList.length < showFrom
    · simp [hempty, hshort]
    · simp [hempty, hshort]

theorem ofSecret_eq_hidden_iff :
    ofSecret a = .hidden ↔ a ≠ "" ∧ a.toList.length < showFrom := by
  unfold ofSecret
  by_cases hempty : a = ""
  · simp [hempty]
  · by_cases hshort : a.toList.length < showFrom
    · simp [hempty, hshort]
    · simp [hempty, hshort]

theorem ofSecret_eq_ends_iff :
    ofSecret a = .ends first last ↔ showFrom ≤ a.toList.length ∧ a.toList.take shown = first ∧
      a.toList.drop (a.toList.length - shown) = last := by
  unfold ofSecret
  by_cases hempty : a = ""
  · simp [hempty, showFrom]
  · by_cases hshort : a.toList.length < showFrom
    · simp [hempty, hshort, Nat.not_le.mpr hshort]
    · simp [hempty, hshort, Nat.not_lt.mp hshort]

/-- Secrets that no one can tell apart who sees at most three characters at each end of a long
one: both are empty, or both are short, or both are long and have the same ends. -/
def SameEnds (a b : String) : Prop :=
  (a = "" ∧ b = "") ∨
  (a ≠ "" ∧ b ≠ "" ∧ a.toList.length < 12 ∧ b.toList.length < 12) ∨
  (12 ≤ a.toList.length ∧ 12 ≤ b.toList.length ∧ a.toList.take 3 = b.toList.take 3 ∧
    a.toList.drop (a.toList.length - 3) = b.toList.drop (b.toList.length - 3))

instance (a b : String) : Decidable (SameEnds a b) := inferInstanceAs (Decidable (_ ∨ _))

/-- These are the secrets that have one form. -/
theorem ofSecret_eq_iff : ofSecret a = ofSecret b ↔ SameEnds a b := by
  show _ ↔ (a = "" ∧ b = "") ∨
    (a ≠ "" ∧ b ≠ "" ∧ a.toList.length < showFrom ∧ b.toList.length < showFrom) ∨
    (showFrom ≤ a.toList.length ∧ showFrom ≤ b.toList.length ∧
      a.toList.take shown = b.toList.take shown ∧
      a.toList.drop (a.toList.length - shown) = b.toList.drop (b.toList.length - shown))
  cases hb : ofSecret b with
  | empty =>
      obtain rfl := ofSecret_eq_empty_iff.mp hb
      rw [ofSecret_eq_empty_iff]
      simp [showFrom]
  | hidden =>
      obtain ⟨hne, hshort⟩ := ofSecret_eq_hidden_iff.mp hb
      rw [ofSecret_eq_hidden_iff]
      simp [hne, hshort, Nat.not_le.mpr hshort]
  | ends first last =>
      obtain ⟨hlong, rfl, rfl⟩ := ofSecret_eq_ends_iff.mp hb
      have hne : b ≠ "" := by
        rintro rfl
        simp [showFrom] at hlong
      rw [ofSecret_eq_ends_iff]
      simp [hne, hlong, Nat.not_lt.mpr hlong]

theorem eq_empty_iff (h : ofSecret a = ofSecret b) : a = "" ↔ b = "" := by
  rw [← ofSecret_eq_empty_iff, ← ofSecret_eq_empty_iff, h]

end Redacted

/-- Whether a header can hold a key. -/
def CanBeSent (apiKey : String) : Prop :=
  ∃ value, HeaderValue.ofText ("Bearer " ++ apiKey) = .ok value

/-- Keys that cannot be told apart by their ends, of which a header can hold both or neither. -/
structure KeyAlike (a b : String) : Prop where
  ends : Redacted.SameEnds a b
  sent : CanBeSent a ↔ CanBeSent b

section

variable {a b : String} {a? b? : Option String}

theorem KeyAlike.shown (h : KeyAlike a b) : Redacted.ofSecret a = Redacted.ofSecret b :=
  Redacted.ofSecret_eq_iff.mpr h.ends

theorem KeyAlike.eq_empty_iff (h : KeyAlike a b) : a = "" ↔ b = "" :=
  Redacted.eq_empty_iff h.shown

theorem KeyAlike.describeAs_eq (h : KeyAlike a b) (name : String) :
    Credential.describeAs name a = Credential.describeAs name b := by
  unfold Credential.describeAs
  rw [h.shown]

/-- Both keys make the value of a header, or are refused with one fault. -/
theorem KeyAlike.bearer (h : KeyAlike a b) :
    OutcomeRel (fun _ _ => True) (HeaderValue.ofText ("Bearer " ++ a))
      (HeaderValue.ofText ("Bearer " ++ b)) := by
  have hsent := h.sent
  unfold CanBeSent at hsent
  cases ha : HeaderValue.ofText ("Bearer " ++ a) with
  | ok value =>
      obtain ⟨value', hb⟩ := hsent.mp ⟨value, ha⟩
      rw [hb]
      exact .ok trivial
  | error fault =>
      cases hb : HeaderValue.ofText ("Bearer " ++ b) with
      | ok value' =>
          obtain ⟨value, hvalue⟩ := hsent.mpr ⟨value', hb⟩
          rw [ha] at hvalue
          cases hvalue
      | error fault' =>
          rw [HeaderValue.eq_of_ofText_eq_error ha, HeaderValue.eq_of_ofText_eq_error hb]
          exact .error _

theorem Redacted.ofSecret?_eq (h : Option.Rel KeyAlike a? b?) :
    Redacted.ofSecret? a? = Redacted.ofSecret? b? := by
  cases h with
  | none => rfl
  | some hkey => exact hkey.shown

end

/-- Credentials whose keys are alike. -/
def Credential.Alike (c d : Credential) : Prop := KeyAlike c.apiKey d.apiKey

section

variable {c d : Credential} {c? d? : Option Credential}

theorem Credential.Alike.isValid_eq (h : c.Alike d) : c.isValid = d.isValid := by
  unfold Credential.isValid
  simp only [ne_eq, h.eq_empty_iff]

theorem Credential.describe?_eq (h : Option.Rel Alike c? d?) : describe? c? = describe? d? := by
  cases h with
  | none => rfl
  | some hkey => exact congrArg ("Some(" ++ · ++ ")") (KeyAlike.describeAs_eq hkey _)

/-- Of credentials that are alike, both are valid or neither. -/
theorem Credential.filter_alike (h : Option.Rel Alike c? d?) :
    Option.Rel Alike (c?.filter (·.isValid)) (d?.filter (·.isValid)) := by
  cases h with
  | none => exact .none
  | @some c d hkey =>
      rw [Option.filter_some, Option.filter_some, hkey.isValid_eq]
      cases d.isValid with
      | false => exact .none
      | true => exact .some hkey

end

/-! ### Environments and providers -/

/-- Environments with keys that are alike, and else the same variables. -/
structure Environment.Alike (env env' : Environment) : Prop where
  apiKey : Option.Rel KeyAlike (env.lookUp VariableName.apiKey) (env'.lookUp VariableName.apiKey)
  others : ∀ name, name ≠ VariableName.apiKey → env.lookUp name = env'.lookUp name

/-- Loads that come to credentials that are alike or to one error, and tell the same. -/
structure Loaded.Alike (first second : Loaded) : Prop where
  result : OutcomeRel (Option.Rel Credential.Alike) first.result second.result
  log : first.log = second.log

/-- Providers that are shown alike, and load alike from environments that are alike. -/
structure Provider.Alike (p q : Provider) : Prop where
  name : p.name = q.name
  load : ∀ loads env env', env.Alike env' → (p.load loads env).Alike (q.load loads env')

namespace Provider

theorem fixed_alike {a b : String} (h : KeyAlike a b) : (fixed a).Alike (fixed b) where
  name := h.describeAs_eq _
  load _ _ _ _ := ⟨.ok (.some h), rfl⟩

theorem environment_alike : environment.Alike environment where
  name := rfl
  load loads env env' henv := by
    have hmissing : environment.missing.Alike environment.missing := ⟨.ok .none, rfl⟩
    have hkeys := henv.apiKey
    generalize ha : env.lookUp VariableName.apiKey = a?, hb : env'.lookUp VariableName.apiKey = b?
      at hkeys
    cases hkeys with
    | none =>
        rw [load_environment_of_missing (by simp [ha]), load_environment_of_missing (by simp [hb])]
        exact hmissing
    | @some a b hkey =>
        by_cases hempty : a = ""
        · have hempty' := hkey.eq_empty_iff.mp hempty
          rw [load_environment_of_missing (by simp [ha, hempty]),
            load_environment_of_missing (by simp [hb, hempty'])]
          exact hmissing
        · have hne := mt hkey.eq_empty_iff.mpr hempty
          rw [load_environment_of_key ha hempty, load_environment_of_key hb hne]
          exact ⟨.ok (.some hkey), rfl⟩

end Provider

namespace Signing

/-! ### Signers -/

/-- Vaults of one number of loads, with credentials that are alike. -/
structure Vault.Alike (vault vault' : Vault) : Prop where
  credential : Option.Rel Credential.Alike vault.credential vault'.credential
  loads : vault.loads = vault'.loads

theorem Vault.Alike.asked {vault vault' : Vault} (h : vault.Alike vault') :
    vault.asked.Alike vault'.asked := ⟨h.credential, congrArg (· + 1) h.loads⟩

theorem Vault.Alike.describe_eq {vault vault' : Vault} (h : vault.Alike vault') :
    vault.describe = vault'.describe := by
  unfold describe
  rw [Credential.describe?_eq h.credential]

/-- The headers of a draft do not matter for whether it can be finished. -/
theorem Draft.result_finish (draft : Draft) (headers : Headers) (head : Head) :
    (Draft.finish { draft with headers := headers } head).result = (draft.finish head).result := by
  have huri : Draft.uri { draft with headers := headers } = draft.uri := rfl
  unfold finish
  rw [huri]
  cases draft.uri <;> rfl

/-- With credentials that are alike, one head is sealed in both cases or in neither, and the
same is told. What is put into its headers differs. -/
theorem sealHead_alike {c d : Credential} (h : c.Alike d) (now : Instant) (head : Head)
    (body : Option Bytes) :
    (sealHead (some c) now head body).result = (sealHead (some d) now head body).result ∧
      (sealHead (some c) now head body).log = (sealHead (some d) now head body).log := by
  unfold sealHead
  cases readBody body with
  | error e => exact ⟨rfl, rfl⟩
  | ok raw =>
      dsimp only
      generalize Draft.start head = started
      obtain ⟨result, left⟩ := started
      cases result with
      | error e => exact ⟨rfl, rfl⟩
      | ok draft =>
          have hputs := fun apiKey => putHeaders_eq draft apiKey
            (Timestamp.all_isValueByte_format now) (all_isValueByte_signature apiKey
              (payload draft.method (left.signedEndpoint.getD draft.pathAndQuery) raw
                (Timestamp.format now)))
          have hkeys := h.bearer
          dsimp only [sealDraft]
          rw [hputs, hputs]
          generalize HeaderValue.ofText ("Bearer " ++ c.apiKey) = value,
            HeaderValue.ofText ("Bearer " ++ d.apiKey) = value' at hkeys
          cases hkeys with
          | error fault => exact ⟨rfl, rfl⟩
          | ok _ =>
              exact ⟨(draft.result_finish _ left).trans (draft.result_finish _ left).symm, rfl⟩

namespace Signer

variable {signer signer' : Signer} {env env' : Environment} {vault vault' : Vault}

/-- What providers that are alike have loaded is accepted as credentials that are alike, or
refused with one error. -/
theorem accept_alike {p q : Provider} {loaded loaded' : Loaded} (hname : p.name = q.name)
    (h : loaded.Alike loaded') :
    OutcomeRel Credential.Alike (accept p loaded).1 (accept q loaded').1 ∧
      (accept p loaded).2 = (accept q loaded').2 := by
  obtain ⟨result, log⟩ := loaded
  obtain ⟨result', log'⟩ := loaded'
  obtain ⟨hresult, hlog⟩ := h
  dsimp only at hresult hlog
  subst hlog
  unfold accept
  dsimp only
  rw [hname]
  cases hresult with
  | error e => exact ⟨.error e, rfl⟩
  | @ok c? d? hfound =>
      have hvalid := Credential.filter_alike hfound
      dsimp only
      generalize c?.filter (·.isValid) = valid?, d?.filter (·.isValid) = valid?' at hvalid
      cases hvalid with
      | none => exact ⟨.error _, rfl⟩
      | some hc => exact ⟨.ok hc, rfl⟩

/-- Signers that are alike find credentials that are alike, tell the same and leave vaults
that are alike. -/
theorem credential_alike (hprovider : signer.provider.Alike signer'.provider)
    (henv : env.Alike env') (hvault : vault.Alike vault') :
    OutcomeRel Credential.Alike (signer.credential env vault).1 (signer'.credential env' vault').1 ∧
      (signer.credential env vault).2.1.Alike (signer'.credential env' vault').2.1 ∧
      (signer.credential env vault).2.2 = (signer'.credential env' vault').2.2 := by
  have husable : Option.Rel Credential.Alike vault.usable? vault'.usable? :=
    Credential.filter_alike hvault.credential
  obtain ⟨hresult, hlog⟩ := accept_alike hprovider.name
    (hprovider.load vault.loads env env' henv)
  rw [hvault.loads] at hresult hlog
  unfold credential
  rw [hvault.loads]
  generalize vault.usable? = usable?, vault'.usable? = usable?' at husable
  cases husable with
  | some hc => exact ⟨.ok hc, hvault, rfl⟩
  | none =>
      dsimp only
      generalize accept signer.provider (signer.provider.load vault'.loads env) = accepted,
        accept signer'.provider (signer'.provider.load vault'.loads env') = accepted'
        at hresult hlog
      obtain ⟨result, log⟩ := accepted
      obtain ⟨result', log'⟩ := accepted'
      dsimp only at hresult hlog
      subst hlog
      cases hresult with
      | error e => exact ⟨.error e, hvault.asked, rfl⟩
      | ok hc => exact ⟨.ok hc, ⟨.some hc, hvault.asked.loads⟩, rfl⟩

/-- Signers that are alike come to the same outcome, tell the same and leave vaults that are
alike. -/
theorem sign_alike (hprovider : signer.provider.Alike signer'.provider) (henv : env.Alike env')
    (hvault : vault.Alike vault') (now : Instant) (head : Head) (body : Option Bytes) :
    (signer.sign env vault now head body).result = (signer'.sign env' vault' now head body).result ∧
      (signer.sign env vault now head body).log = (signer'.sign env' vault' now head body).log ∧
      (signer.sign env vault now head body).vault.Alike
        (signer'.sign env' vault' now head body).vault := by
  obtain ⟨hresult, hleft, hlog⟩ := credential_alike hprovider henv hvault
  unfold sign
  generalize signer.credential env vault = found, signer'.credential env' vault' = found'
    at hresult hleft hlog
  obtain ⟨result, left, log⟩ := found
  obtain ⟨result', left', log'⟩ := found'
  dsimp only at hresult hleft hlog
  subst hlog
  cases hresult with
  | error e => exact ⟨rfl, rfl, hleft⟩
  | ok hc =>
      obtain ⟨hsealed, htold⟩ := sealHead_alike hc now head body
      exact ⟨hsealed, congrArg (log ++ ·) htold, hleft⟩

theorem describe_alike {context context' : Context} (hname : signer.provider.name = signer'.provider.name)
    (hcontext : context.describe = context'.describe) (hvault : vault.Alike vault') :
    signer.describe context vault = signer'.describe context' vault' := by
  unfold describe
  rw [hname, hcontext, hvault.describe_eq]

end Signer

end Signing

end SignedPayments
