import SignedPayments.Signing.Signer

/-!
# SignedPayments.Proofs.Signing.Signer

What signers keep. Calls share a vault, and their steps may be mixed in any order, so a
vault is taken in any state that such steps can leave (`Vault.Reachable`).

* A credential is found in one of three ways (`Signer.credential_cases`), and each of
  them leaves a vault that can be reached.
* What is true of all credentials that a provider gives is true of the one that is kept
  (`Vault.Reachable.keeps`), and so of the one that signs.
-/

namespace SignedPayments

open Http

namespace Provider

/-- Every credential that a provider gives has a property. -/
def Gives (provider : Provider) (P : Credential → Prop) : Prop :=
  ∀ loads env c, (provider.load loads env).result = .ok (some c) → P c

theorem fixed_gives (apiKey : String) : (fixed apiKey).Gives (· = ⟨apiKey⟩) := by
  rintro loads env c ⟨⟩
  rfl

/-- In an environment, a provider gives the same however often it is asked. -/
def Settled (provider : Provider) (env : Environment) (c? : Option Credential) : Prop :=
  ∀ loads, (provider.load loads env).result = .ok c?

theorem fixed_settled (apiKey : String) (env : Environment) :
    (fixed apiKey).Settled env (some ⟨apiKey⟩) := fun _ => rfl

theorem load_environment_of_key {env : Environment} {key : String}
    (h : env.lookUp VariableName.apiKey = some key) (hne : key ≠ "") (loads : Nat) :
    environment.load loads env = { result := .ok (some ⟨key⟩) } := by
  simp only [environment, h, hne, if_false]

theorem environment_settled {env : Environment} {key : String}
    (h : env.lookUp VariableName.apiKey = some key) (hne : key ≠ "") :
    environment.Settled env (some ⟨key⟩) := by
  intro loads
  rw [load_environment_of_key h hne]

/-- An empty key counts as missing. -/
theorem load_environment_of_missing {env : Environment}
    (h : ∀ key, env.lookUp VariableName.apiKey = some key → key = "") (loads : Nat) :
    environment.load loads env = environment.missing := by
  cases hkey : env.lookUp VariableName.apiKey with
  | none => simp only [environment, hkey]
  | some key => simp only [environment, hkey, h key hkey, if_true]

end Provider

namespace Signing

/-- A credential is accepted if the provider gave it and it is valid. -/
theorem Signer.accept_eq_ok_iff {provider : Provider} {loaded : Loaded} {c : Credential} :
    (accept provider loaded).1 = .ok c ↔ loaded.result = .ok (some c) ∧ c.isValid = true := by
  unfold accept
  cases loaded.result with
  | error e => simp
  | ok credential? =>
      cases credential? with
      | none => simp
      | some found =>
          by_cases hvalid : found.isValid = true
          · simp only [Option.filter_some, hvalid, if_true, Except.ok.injEq, Option.some.injEq]
            constructor
            · rintro rfl
              exact ⟨rfl, hvalid⟩
            · exact And.left
          · simp only [Option.filter_some, hvalid, if_false, reduceCtorEq, Except.ok.injEq,
              Option.some.injEq, false_iff, not_and]
            rintro rfl
            exact hvalid

/-! ### Vaults -/

namespace Vault

/-- What is kept has a property. -/
def Keeps (vault : Vault) (P : Credential → Prop) : Prop := ∀ c ∈ vault.credential, P c

/-- A vault that calls leave, in whatever order they count a load and keep what the
provider gave. -/
inductive Reachable (provider : Provider) : Vault → Prop
  | fresh : Reachable provider {}
  | asked {vault : Vault} : Reachable provider vault → Reachable provider vault.asked
  | keep {vault : Vault} {loads : Nat} {env : Environment} {c : Credential} :
      Reachable provider vault →
      (Signer.accept provider (provider.load loads env)).1 = .ok c →
      Reachable provider (vault.keep c)

/-- Only what a provider gave is kept. -/
theorem Reachable.keeps {provider : Provider} {vault : Vault} {P : Credential → Prop}
    (h : Reachable provider vault) (hgives : provider.Gives P) : vault.Keeps P := by
  induction h with
  | fresh =>
      rintro c ⟨⟩
  | asked _ ih => exact ih
  | keep _ hloaded _ =>
      rintro c ⟨⟩
      exact hgives _ _ _ (Signer.accept_eq_ok_iff.mp hloaded).1

/-- Only valid credentials are kept. -/
theorem Reachable.keeps_valid {provider : Provider} {vault : Vault} (h : Reachable provider vault) :
    vault.Keeps (·.isValid = true) := by
  induction h with
  | fresh =>
      rintro c ⟨⟩
  | asked _ ih => exact ih
  | keep _ hloaded _ =>
      rintro c ⟨⟩
      exact (Signer.accept_eq_ok_iff.mp hloaded).2

end Vault

/-! ### Finding a credential -/

namespace Signer

variable {signer : Signer} {env : Environment} {vault : Vault} {c : Credential}

/-- A credential is kept, or the provider gives one, or the provider gives none. -/
theorem credential_cases (signer : Signer) (env : Environment) (vault : Vault) :
    (∃ c, vault.usable? = some c ∧ signer.credential env vault = (.ok c, vault, [])) ∨
    (∃ c log, accept signer.provider (signer.provider.load vault.loads env) = (.ok c, log) ∧
      signer.credential env vault = (.ok c, vault.asked.keep c, log)) ∨
    (∃ e log, accept signer.provider (signer.provider.load vault.loads env) = (.error e, log) ∧
      signer.credential env vault = (.error e, vault.asked, log)) := by
  unfold credential
  cases vault.usable? with
  | some c => exact .inl ⟨c, rfl, rfl⟩
  | none =>
      cases haccept : accept signer.provider (signer.provider.load vault.loads env) with
      | mk result log =>
          cases result with
          | ok c => exact .inr (.inl ⟨c, log, rfl, rfl⟩)
          | error e => exact .inr (.inr ⟨e, log, rfl, rfl⟩)

/-- Finding a credential leaves a vault that can be reached. -/
theorem reachable_credential (h : Vault.Reachable signer.provider vault) :
    Vault.Reachable signer.provider (signer.credential env vault).2.1 := by
  rcases signer.credential_cases env vault with ⟨c, -, hc⟩ | ⟨c, log, hload, hc⟩ | ⟨e, log, -, hc⟩
  · rw [hc]
    exact h
  · rw [hc]
    exact .keep h.asked (congrArg Prod.fst hload)
  · rw [hc]
    exact h.asked

/-- What is true of all credentials that a provider gives is true of the one found. -/
theorem of_credential_eq_ok {P : Credential → Prop} (h : Vault.Reachable signer.provider vault)
    (hgives : signer.provider.Gives P) (hfound : (signer.credential env vault).1 = .ok c) :
    P c := by
  rcases signer.credential_cases env vault with ⟨d, hd, hc⟩ | ⟨d, log, hload, hc⟩ | ⟨e, log, -, hc⟩
  · rw [hc] at hfound
    cases hfound
    exact h.keeps hgives c (Option.eq_some_of_filter_eq_some hd)
  · rw [hc] at hfound
    cases hfound
    exact hgives _ _ _ (accept_eq_ok_iff.mp (congrArg Prod.fst hload)).1
  · rw [hc] at hfound
    cases hfound

/-- What a settled provider gives is found, and nothing else is kept. -/
theorem credential_of_settled (h : signer.provider.Settled env (some c)) (hvalid : c.isValid = true)
    (hkeeps : vault.Keeps (· = c)) :
    (signer.credential env vault).1 = .ok c ∧ (signer.credential env vault).2.1.Keeps (· = c) := by
  rcases signer.credential_cases env vault with ⟨d, hd, hc⟩ | ⟨d, log, hload, hc⟩ | ⟨e, log, hload, -⟩
  · obtain rfl : d = c := hkeeps d (Option.eq_some_of_filter_eq_some hd)
    rw [hc]
    exact ⟨rfl, hkeeps⟩
  · have hgiven := (accept_eq_ok_iff.mp (congrArg Prod.fst hload)).1
    rw [h vault.loads] at hgiven
    cases hgiven
    rw [hc]
    exact ⟨rfl, fun d hd => (Option.some.inj hd).symm⟩
  · have haccept : (accept signer.provider (signer.provider.load vault.loads env)).1 = .ok c :=
      accept_eq_ok_iff.mpr ⟨h vault.loads, hvalid⟩
    rw [hload] at haccept
    cases haccept

/-- From a provider that gives none, no credential is found or kept. -/
theorem credential_of_settled_none (h : signer.provider.Settled env none)
    (hkeeps : vault.credential = none) :
    (∃ e, (signer.credential env vault).1 = .error e) ∧
      (signer.credential env vault).2.1.credential = none := by
  rcases signer.credential_cases env vault with ⟨d, hd, -⟩ | ⟨d, log, hload, -⟩ | ⟨e, log, -, hc⟩
  · simp [Vault.usable?, hkeeps] at hd
  · have hgiven := (accept_eq_ok_iff.mp (congrArg Prod.fst hload)).1
    rw [h vault.loads] at hgiven
    cases hgiven
  · rw [hc]
    exact ⟨⟨e, rfl⟩, hkeeps⟩

/-! ### Signing -/

variable {now : Instant} {head : Head} {body : Option Bytes}

/-- Signing leaves the vault that finding the credential leaves, whether or not sealing
fails then. -/
theorem vault_sign (signer : Signer) (env : Environment) (vault : Vault) (now : Instant)
    (head : Head) (body : Option Bytes) :
    (signer.sign env vault now head body).vault = (signer.credential env vault).2.1 := by
  unfold sign
  rcases signer.credential env vault with ⟨result, vault', log⟩
  cases result <;> rfl

/-- With a credential, signing gives and leaves what sealing does. -/
theorem sign_of_ok (h : (signer.credential env vault).1 = .ok c) (now : Instant) (head : Head)
    (body : Option Bytes) :
    (signer.sign env vault now head body).result = (sealHead (some c) now head body).result ∧
      (signer.sign env vault now head body).head = (sealHead (some c) now head body).head := by
  unfold sign
  rcases hfound : signer.credential env vault with ⟨result, vault', log⟩
  rw [hfound] at h
  cases h
  exact ⟨rfl, rfl⟩

/-- Without a credential, the head is not touched. -/
theorem sign_of_error {e : Error} (h : (signer.credential env vault).1 = .error e) (now : Instant)
    (head : Head) (body : Option Bytes) :
    (signer.sign env vault now head body).result = .error e ∧
      (signer.sign env vault now head body).head = head := by
  unfold sign
  rcases hfound : signer.credential env vault with ⟨result, vault', log⟩
  rw [hfound] at h
  cases h
  exact ⟨rfl, rfl⟩

/-- A head is signed if a credential is found and seals it. -/
theorem sign_inv (h : (signer.sign env vault now head body).result = .ok ()) :
    ∃ c, (signer.credential env vault).1 = .ok c ∧
      (sealHead (some c) now head body).result = .ok () ∧
      (signer.sign env vault now head body).head = (sealHead (some c) now head body).head := by
  unfold sign at h ⊢
  rcases hfound : signer.credential env vault with ⟨result, vault', log⟩
  cases result with
  | error e => simp [hfound] at h
  | ok c =>
      simp only [hfound] at h ⊢
      exact ⟨c, rfl, h, rfl⟩

end Signer

end Signing

end SignedPayments
