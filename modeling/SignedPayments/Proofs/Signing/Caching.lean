import SignedPayments.Proofs.Copies
import SignedPayments.Proofs.Signing.Signer

/-!
# SignedPayments.Proofs.Signing.Caching

Which credential signs, over whole runs of calls through a signer and its copies
(`Signer.run_caches`). The provider is asked at each call until it gives a valid
credential, and then never again.

One call in a vault that keeps nothing is told by what the provider gives then
(`turn_of_empty`), and one in a vault that keeps a valid credential by that alone
(`turn_of_kept`). A run is a chain of such calls, so the vault that its `n`-th call finds
follows by induction on `n`.
-/

namespace SignedPayments

open Http

/-- What was loaded is this credential, and it is valid. -/
def Loaded.Yields (loaded : Loaded) (c : Credential) : Prop :=
  loaded.result = .ok (some c) ∧ c.isValid = true

namespace Signing

open Copies

/-- A call that came to nothing, by what was loaded for it: the error of the provider, or
one that says that there is no credential. What was to be signed is as it was. -/
structure Refused (loaded : Loaded) (t : Turn Signer.Job Vault Sealed) : Prop where
  own : ∀ e, loaded.result = .error e → t.answer.result = .error e
  unusable : ∀ credential, loaded.result = .ok credential →
    ∃ e, t.answer.result = .error e ∧ e.kind = .credentialInvalid
  head : t.answer.head = t.request.head

/-- A call whose result and head are those of sealing with a credential, whether or not
that fails. -/
structure SealedWith (c : Credential) (t : Turn Signer.Job Vault Sealed) : Prop where
  result : t.answer.result = (sealHead (some c) t.request.now t.request.head t.request.body).result
  head : t.answer.head = (sealHead (some c) t.request.now t.request.head t.request.body).head

namespace Signer

variable {signer : Signer} {env : Environment} {vault : Vault} {loads : Nat} {c : Credential}

/-! ### One call -/

/-- Why the provider's outcome is not accepted. -/
theorem accept_eq_error {provider : Provider} {loaded : Loaded} {e : Error}
    (h : (accept provider loaded).1 = .error e) :
    (∀ e', loaded.result = .error e' → e = e') ∧
      (∀ credential, loaded.result = .ok credential → e = nothingUsable) := by
  unfold accept at h
  cases hloaded : loaded.result with
  | error e' =>
      rw [hloaded] at h
      cases h
      constructor
      · rintro e' ⟨⟩
        rfl
      · rintro credential ⟨⟩
  | ok credential =>
      rw [hloaded] at h
      dsimp only at h
      split at h
      · cases h
        constructor
        · rintro e' ⟨⟩
        · rintro credential -
          rfl
      · cases h

/-- In a vault that keeps a valid credential, a call signs with that. The provider is not
asked, so its outcomes do not matter. -/
theorem turn_of_kept (signer : Signer) (loads : Nat) (hc : c.isValid = true) (job : Job) :
    SealedWith c (turn serve signer ⟨some c, loads⟩ job) ∧
      (turn serve signer ⟨some c, loads⟩ job).after = ⟨some c, loads⟩ := by
  have hfound : signer.credential job.env ⟨some c, loads⟩ = (.ok c, ⟨some c, loads⟩, []) := by
    simp [credential, Vault.usable?, Option.filter, hc]
  obtain ⟨hresult, hhead⟩ := sign_of_ok (congrArg Prod.fst hfound) job.now job.head job.body
  refine ⟨⟨hresult, hhead⟩, ?_⟩
  show (signer.sign job.env ⟨some c, loads⟩ job.now job.head job.body).vault = _
  rw [vault_sign, hfound]

/-- In a vault that keeps nothing, the provider is asked, once. If it gives a valid
credential, the call signs with that and it is kept. -/
theorem turn_of_empty (signer : Signer) (loads : Nat) (job : Job) :
    (∃ c, (signer.provider.load loads job.env).Yields c ∧
      SealedWith c (turn serve signer ⟨none, loads⟩ job) ∧
      (turn serve signer ⟨none, loads⟩ job).after = ⟨some c, loads + 1⟩) ∨
    ((∀ c, ¬(signer.provider.load loads job.env).Yields c) ∧
      Refused (signer.provider.load loads job.env) (turn serve signer ⟨none, loads⟩ job) ∧
      (turn serve signer ⟨none, loads⟩ job).after = ⟨none, loads + 1⟩) := by
  have hafter : (turn serve signer ⟨none, loads⟩ job).after =
      (signer.credential job.env ⟨none, loads⟩).2.1 := vault_sign ..
  rcases signer.credential_cases job.env ⟨none, loads⟩ with
    ⟨c, hkept, -⟩ | ⟨c, log, hload, hfound⟩ | ⟨e, log, hload, hfound⟩
  · cases hkept
  · obtain ⟨hresult, hhead⟩ := sign_of_ok (congrArg Prod.fst hfound) job.now job.head job.body
    refine .inl ⟨c, accept_eq_ok_iff.mp (congrArg Prod.fst hload), ⟨hresult, hhead⟩, ?_⟩
    rw [hafter, hfound]
    rfl
  · obtain ⟨hresult, hhead⟩ := sign_of_error (congrArg Prod.fst hfound) job.now job.head job.body
    obtain ⟨hown, hunusable⟩ := accept_eq_error (congrArg Prod.fst hload)
    refine .inr ⟨fun c hyields => ?_,
      ⟨fun e' he' => ?_, fun credential hcredential => ?_, hhead⟩, ?_⟩
    · have hok : (accept signer.provider (signer.provider.load loads job.env)).1 = .ok c :=
        accept_eq_ok_iff.mpr hyields
      rw [show accept signer.provider (signer.provider.load loads job.env) = (.error e, log) from
        hload] at hok
      cases hok
    · exact hown e' he' ▸ hresult
    · exact ⟨e, hresult, by rw [hunusable credential hcredential]; rfl⟩
    · rw [hafter, hfound]
      rfl

/-! ### Runs -/

section

variable {turns : List (Turn Job Vault Sealed)} {last : Vault} {t : Turn Job Vault Sealed}
  {n i : Nat}

/-- None of the first `n` outcomes is a valid credential. -/
def NoneYields (provider : Provider) (turns : List (Turn Job Vault Sealed)) (n : Nat) : Prop :=
  ∀ m < n, ∀ t, turns[m]? = some t → ∀ c, ¬(provider.load m t.request.env).Yields c

/-- The `n`-th outcome, counted from zero, is the first valid credential. -/
structure FirstYields (provider : Provider) (turns : List (Turn Job Vault Sealed)) (n : Nat)
    (c : Credential) : Prop where
  none_before : NoneYields provider turns n
  yields : ∃ t, turns[n]? = some t ∧ (provider.load n t.request.env).Yields c

theorem exists_previous (ht : turns[n + 1]? = some t) : ∃ u, turns[n]? = some u := by
  obtain ⟨hn, -⟩ := List.getElem?_eq_some_iff.mp ht
  exact ⟨_, List.getElem?_eq_getElem (by omega)⟩

/-- While no outcome is valid, nothing is kept, and each call asks once. -/
theorem before_of_noneYields (h : Chain serve signer {} turns last)
    (hnone : NoneYields signer.provider turns n) (ht : turns[n]? = some t) :
    t.before = ⟨none, n⟩ := by
  induction n generalizing t with
  | zero => exact h.before_zero ht
  | succ n ih =>
      obtain ⟨u, hu⟩ := exists_previous ht
      have hbefore := ih (fun m hm => hnone m (by omega)) hu
      rw [h.before_succ hu ht, h.eq_turn hu, hbefore]
      rcases turn_of_empty signer n u.request with ⟨c, hyields, -⟩ | ⟨-, -, hafter⟩
      · exact absurd hyields (hnone n (by omega) u hu c)
      · exact hafter

/-- A call whose outcome is not valid, like those of all calls before it. -/
theorem refused_of_noneYields (h : Chain serve signer {} turns last)
    (hnone : NoneYields signer.provider turns (n + 1)) (ht : turns[n]? = some t) :
    Refused (signer.provider.load n t.request.env) t ∧ t.after = ⟨none, n + 1⟩ := by
  have hbefore := before_of_noneYields h (fun m hm => hnone m (by omega)) ht
  have hturn := h.eq_turn ht
  rw [hbefore] at hturn
  rcases turn_of_empty signer n t.request with ⟨c, hyields, -⟩ | ⟨-, hrefused, hafter⟩
  · exact absurd hyields (hnone n (by omega) t ht c)
  · rw [← hturn] at hrefused hafter
    exact ⟨hrefused, hafter⟩

/-- The call that loads the credential. -/
theorem sealed_of_firstYields (h : Chain serve signer {} turns last)
    (hfirst : FirstYields signer.provider turns n c) (ht : turns[n]? = some t) :
    SealedWith c t ∧ t.after = ⟨some c, n + 1⟩ := by
  have hbefore := before_of_noneYields h hfirst.none_before ht
  have hturn := h.eq_turn ht
  rw [hbefore] at hturn
  obtain ⟨u, hu, hyields⟩ := hfirst.yields
  obtain rfl := Option.some.inj (ht.symm.trans hu)
  rcases turn_of_empty signer n t.request with ⟨d, hd, hsealed, hafter⟩ | ⟨hnone, -⟩
  · obtain rfl : c = d := by
      have heq := hyields.1.symm.trans hd.1
      cases heq
      rfl
    rw [← hturn] at hsealed hafter
    exact ⟨hsealed, hafter⟩
  · exact absurd hyields (hnone c)

/-- A call after it finds the credential, and leaves it. -/
theorem kept_of_firstYields (h : Chain serve signer {} turns last)
    (hfirst : FirstYields signer.provider turns n c) (hi : n < i) (ht : turns[i]? = some t) :
    t.before = ⟨some c, n + 1⟩ ∧ SealedWith c t ∧ t.after = ⟨some c, n + 1⟩ := by
  have hvalid : c.isValid = true := by
    obtain ⟨u, -, hyields⟩ := hfirst.yields
    exact hyields.2
  have hbefore : t.before = ⟨some c, n + 1⟩ := by
    induction i generalizing t with
    | zero => omega
    | succ i ih =>
        obtain ⟨u, hu⟩ := exists_previous ht
        rw [h.before_succ hu ht]
        rcases Nat.lt_succ_iff_lt_or_eq.mp hi with hlt | rfl
        · rw [h.eq_turn hu, ih hlt hu]
          exact (turn_of_kept signer (n + 1) hvalid u.request).2
        · exact (sealed_of_firstYields h hfirst hu).2
  have hturn := h.eq_turn ht
  rw [hbefore] at hturn
  obtain ⟨hsealed, hafter⟩ := turn_of_kept signer (n + 1) hvalid t.request
  rw [← hturn] at hsealed hafter
  exact ⟨hbefore, hsealed, hafter⟩

/-- The vault at the end of a run keeps nothing, or a valid credential. -/
theorem valid_of_chain (h : Chain serve signer {} turns last) :
    last.credential = none ∨ ∃ c, last.credential = some c ∧ c.isValid = true := by
  have hreachable : Vault.Reachable signer.provider last := by
    refine h.preserves (fun vault job hvault => ?_) .fresh
    show Vault.Reachable _ (signer.sign job.env vault job.now job.head job.body).vault
    rw [vault_sign]
    exact reachable_credential hvault
  cases hlast : last.credential with
  | none => exact .inl rfl
  | some c => exact .inr ⟨c, rfl, hreachable.keeps_valid c hlast⟩

end

/-- Whatever is done with a signer and copies of it, one vault is kept, which holds
nothing or a valid credential, and every copy answers what it is asked.

Up to the first valid credential, each call asks the provider once and is refused by what
the provider gave; it leaves its head and the credential that is kept, which is none. From
the call on that loads this credential, the provider is not asked again and every call seals
with it. -/
theorem run_caches (signer : Signer) (actions : List (Action Job)) :
    let turns := (signer.run actions).1
    let copies := (signer.run actions).2
    (∃ vault, copies.places = [vault] ∧
      (vault.credential = none ∨ ∃ c, vault.credential = some c ∧ c.isValid = true)) ∧
    (∀ number < copies.copies.length, ∀ job, ∃ t, t.request = job ∧
      (signer.run (actions ++ [.ask number job])).1 = turns ++ [t]) ∧
    (∀ n t, turns[n]? = some t → NoneYields signer.provider turns (n + 1) →
      t.before = ⟨none, n⟩ ∧ Refused (signer.provider.load n t.request.env) t ∧
        t.after = ⟨none, n + 1⟩) ∧
    (∀ n c, FirstYields signer.provider turns n c → ∀ i t, turns[i]? = some t →
      (i < n → t.before = ⟨none, i⟩ ∧ Refused (signer.provider.load i t.request.env) t ∧
        t.after = ⟨none, i + 1⟩) ∧
      (i = n → t.before = ⟨none, n⟩ ∧ SealedWith c t ∧ t.after = ⟨some c, n + 1⟩) ∧
      (n < i → t.before = ⟨some c, n + 1⟩ ∧ SealedWith c t ∧ t.after = ⟨some c, n + 1⟩)) := by
  intro turns copies
  obtain ⟨last, hchain, hshared⟩ := (shared_single signer {}).run serve actions
  have hrefused : ∀ n t, turns[n]? = some t → NoneYields signer.provider turns (n + 1) →
      t.before = ⟨none, n⟩ ∧ Refused (signer.provider.load n t.request.env) t ∧
        t.after = ⟨none, n + 1⟩ := fun n t ht hnone =>
    ⟨before_of_noneYields hchain (fun m hm => hnone m (by omega)) ht,
      refused_of_noneYields hchain hnone ht⟩
  refine ⟨⟨last, hshared.places, valid_of_chain hchain⟩, fun number hnumber job => ?_, hrefused,
    fun n c hfirst i t ht => ⟨fun hi => ?_, ?_, fun hi => kept_of_firstYields hchain hfirst hi ht⟩⟩
  · exact ⟨turn serve signer last job, rfl, hshared.run_ask hnumber job⟩
  · exact hrefused i t ht fun m hm => hfirst.none_before m (by omega)
  · rintro rfl
    exact ⟨before_of_noneYields hchain hfirst.none_before ht,
      sealed_of_firstYields hchain hfirst ht⟩

/-- A provider that fails, then has no credential, then one with an empty key, and then one
with a key. -/
def late : Provider where
  name := "late"
  load
    | 0, _ => { result := .error { kind := .unexpected, message := "not yet" } }
    | 1, _ => { result := .ok none }
    | 2, _ => { result := .ok (some ⟨""⟩) }
    | _, _ => { result := .ok (some ⟨"key"⟩) }

theorem not_yields_late : ∀ m < 3, ∀ env c, ¬(late.load m env).Yields c
  | 0, _, _, _ => fun h => nomatch h.1
  | 1, _, _, _ => fun h => nomatch h.1
  | 2, _, _, _ => by
      rintro ⟨⟨⟩, hvalid⟩
      exact absurd hvalid (by decide)

/-- So through two copies of a signer with this provider. The head says nowhere where it
goes, so the last call, through the later copy, does not succeed. It seals with the key all
the same. -/
theorem run_caches_late : ∃ job turns t,
    turns = (run ⟨late⟩ [.ask 0 job, .copy 0, .ask 1 job, .ask 0 job, .ask 1 job, .copy 1,
      .ask 2 job]).1 ∧
    FirstYields late turns 3 ⟨"key"⟩ ∧ turns[4]? = some t ∧ t.before = ⟨some ⟨"key"⟩, 4⟩ ∧
    SealedWith ⟨"key"⟩ t ∧ t.answer.result = .error Draft.noAuthority := by
  let job : Job :=
    ⟨.empty, ⟨0, 0, by decide, by decide, by decide⟩, ⟨.get, .root, [], none⟩, none⟩
  let actions : List (Action Job) :=
    [.ask 0 job, .copy 0, .ask 1 job, .ask 0 job, .ask 1 job, .copy 1, .ask 2 job]
  have hfirst : FirstYields late (run ⟨late⟩ actions).1 3 ⟨"key"⟩ :=
    ⟨fun m hm t _ => not_yields_late m hm t.request.env, _, rfl, rfl, by decide⟩
  obtain ⟨t, ht⟩ : ∃ t, (run ⟨late⟩ actions).1[4]? = some t := ⟨_, rfl⟩
  obtain ⟨hbefore, hsealed, -⟩ :=
    ((run_caches ⟨late⟩ actions).2.2.2 3 ⟨"key"⟩ hfirst 4 t ht).2.2 (by decide)
  have hjob : t.request = job := by
    cases ht
    rfl
  refine ⟨job, _, t, rfl, hfirst, ht, hbefore, hsealed, ?_⟩
  rw [hsealed.result, hjob]
  rfl

end Signer

end Signing

end SignedPayments
