import SignedPayments.Proofs.Client.History

/-!
# SignedPayments.Proofs.Client.Lookup

A key that is a variable of the environment can be looked up when a client is made, or when
it is first needed. While the environment stays as it is, nobody sees which of the two was
done (`Client.lookedUp_seen_alike`): with a key the two clients are made for the same
address, and each call finds the key of the environment, and without one neither sends
anything.
-/

namespace SignedPayments

open Http Signing

namespace Client

variable {client : Client} {config : Config} {context : Context} {vault : Vault}
  {env : Environment} {key : String} {e : Error}

/-! ### Making clients -/

/-- Whether a client can be made does not depend on where its credential comes from. -/
theorem withProvider_eq_map (config : Config) (provider other : Provider) :
    withProvider config other =
      (withProvider config provider).map fun client => { client with signer := ⟨other⟩ } := by
  unfold withProvider
  cases Uri.ofText config.baseUrl with
  | error fault => rfl
  | ok uri =>
      dsimp only
      split
      · rfl
      · rfl

/-- Where no client can be made, the address is at fault. -/
theorem kind_of_withProvider {provider : Provider} (h : withProvider config provider = .error e) :
    e.kind = .configInvalid ∧
      ¬∃ base, Uri.ofText config.baseUrl = .ok base ∧ base.scheme.isSome ∧ base.authority.isSome := by
  constructor
  · unfold withProvider at h
    split at h
    · cases h
      rfl
    split at h
    · cases h
    · cases h
      rfl
  · intro hbase
    rw [withProvider_eq_ok_iff.mpr ⟨hbase, rfl⟩] at h
    cases h

/-- A key that is found in the environment is that of the client. -/
theorem ofEnvironment_of_key (hconfig : config.apiKey = none)
    (hkey : env.lookUp VariableName.apiKey = some key) (hne : key ≠ "") :
    (ofEnvironment config env).1 = withProvider (config.fromEnvironment env).1 (.fixed key) := by
  have hfound : (config.fromEnvironment env).1.apiKey = some key := by
    simp [Config.fromEnvironment, hconfig, hkey]
  have hkept : (config.fromEnvironment env).1.apiKey.filter (· ≠ "") = some key := by
    rw [hfound, Option.filter_some]
    simp [hne]
  show ofConfig (config.fromEnvironment env).1 = _
  unfold ofConfig
  rw [hkept]

/-- Where none is found, no client is made. -/
theorem ofEnvironment_of_missing (hconfig : config.apiKey = none)
    (hmissing : ∀ key, env.lookUp VariableName.apiKey = some key → key = "") :
    (ofEnvironment config env).1 = .error keyRequired := by
  have hfound : (config.fromEnvironment env).1.apiKey.filter (· ≠ "") = none := by
    rw [Option.filter_eq_none_iff]
    intro key hkey
    simp [hmissing key (by simpa [Config.fromEnvironment, hconfig] using hkey)]
  show ofConfig (config.fromEnvironment env).1 = _
  unfold ofConfig
  rw [hfound]

/-! ### Calls -/

/-- Without a credential nothing is sent. -/
theorem execute_of_not_found (h : (client.signer.credential context.environment vault).1 = .error e)
    (now : Instant) (call : Call) :
    (client.execute context vault now call).received = [] ∧
      ∃ e, (client.execute context vault now call).result = .error e := by
  cases hprepare : client.prepare call with
  | error e =>
      rw [execute_of_unprepared hprepare]
      exact ⟨rfl, e, rfl⟩
  | ok prepared =>
      obtain ⟨head, body⟩ := prepared
      obtain ⟨hresult, -⟩ := Signer.sign_of_error h now head body
      rw [execute_of_unsigned hprepare hresult]
      exact ⟨rfl, e, rfl⟩

/-- Nothing is ever sent while the provider gives no credential. -/
theorem run_of_settled_none (actions : List (Action Occasion))
    (hsettled : ∀ o ∈ Copies.asked 1 actions,
      client.signer.provider.Settled o.context.environment none) :
    ∀ t ∈ (client.run actions).1, t.answer.received = [] ∧ ∃ e, t.answer.result = .error e := by
  have hshared := Copies.shared_single client ({} : Vault)
  refine hshared.run_answers (P := fun vault => vault.credential = none)
    (R := fun _ done => done.received = [] ∧ ∃ e, done.result = .error e) serve rfl ?_ hsettled
  intro vault o hempty hnone
  obtain ⟨⟨e, hfound⟩, hkept⟩ := Signer.credential_of_settled_none hnone hempty
  refine ⟨execute_of_not_found hfound o.now o.call, ?_⟩
  show (client.execute o.context vault o.now o.call).vault.credential = none
  rcases client.vault_execute o.context vault o.now o.call with hvault | hvault
  · rw [hvault]
    exact hempty
  · rw [hvault]
    exact hkept

/-! ### Both ways -/

/-- With a key in the environment, both clients are refused for the same fault. -/
theorem error_iff_of_key (hconfig : config.apiKey = none)
    (hkey : env.lookUp VariableName.apiKey = some key) (hne : key ≠ "") :
    (ofEnvironment config env).1 = .error e ↔
      withProvider (config.fromEnvironment env).1 .environment = .error e := by
  rw [ofEnvironment_of_key hconfig hkey hne,
    withProvider_eq_map (config.fromEnvironment env).1 (.fixed key) .environment]
  cases withProvider (config.fromEnvironment env).1 (.fixed key) with
  | error e' => rfl
  | ok client => simp [Except.map]

/-- With a key in an environment that stays as it is, the client that has the key and the
one that looks it up are seen alike. -/
theorem run_seen_of_key {first second : Client}
    (hkey : env.lookUp VariableName.apiKey = some key) (hne : key ≠ "")
    (hfirst : withProvider config (.fixed key) = .ok first)
    (hsecond : withProvider config .environment = .ok second) (actions : List (Action Occasion))
    (hfixed : ∀ o ∈ Copies.asked 1 actions, o.context.environment = env) :
    (first.run actions).1.map (·.answer.seen) = (second.run actions).1.map (·.answer.seen) := by
  obtain ⟨-, rfl⟩ := withProvider_eq_ok_iff.mp hfirst
  obtain ⟨-, rfl⟩ := withProvider_eq_ok_iff.mp hsecond
  have hvalid : (Credential.mk key).isValid = true := by simp [Credential.isValid, hne]
  have hlooked : ∀ o ∈ Copies.asked 1 actions,
      Provider.environment.Settled o.context.environment (some ⟨key⟩) := by
    intro o ho
    rw [hfixed o ho]
    exact Provider.environment_settled hkey hne
  let first : Client := ⟨config.baseUrl, config.timeout, ⟨.fixed key⟩⟩
  let second : Client := ⟨config.baseUrl, config.timeout, ⟨.environment⟩⟩
  -- Both are seen as one that looks the key up and was only just made.
  have hfirst := seen_run first second rfl rfl hvalid actions
    fun o ho => ⟨Provider.fixed_settled key _, hlooked o ho⟩
  have hsecond := seen_run second second rfl rfl hvalid actions
    fun o ho => ⟨hlooked o ho, hlooked o ho⟩
  exact hfirst.trans hsecond.symm

/-- A client that was made with the key of the environment and one that looks it up are seen
alike, in an environment that stays as it is: the same fault refuses both, and else every
call, also through copies, sends the same request and has the same result. Where the
environment has no key or an empty one, the first is refused; the second is refused if its
address cannot be used, and else each of its calls fails and sends nothing. -/
theorem lookedUp_seen_alike (hconfig : config.apiKey = none) (env : Environment)
    (actions : List (Action Occasion))
    (hfixed : ∀ o ∈ Copies.asked 1 actions, o.context.environment = env) :
    let completed := (config.fromEnvironment env).1
    let early := (ofEnvironment config env).1
    let late := withProvider completed .environment
    (∀ key, env.lookUp VariableName.apiKey = some key → key ≠ "" →
      (∀ e, early = .error e ↔ late = .error e) ∧
      ∀ first second, early = .ok first → late = .ok second →
        (first.run actions).1.map (·.answer.seen) = (second.run actions).1.map (·.answer.seen)) ∧
    ((∀ key, env.lookUp VariableName.apiKey = some key → key = "") →
      (∃ e, early = .error e ∧ e.kind = .configInvalid) ∧
      (∀ e, late = .error e → e.kind = .configInvalid ∧ ¬∃ base,
        Uri.ofText completed.baseUrl = .ok base ∧ base.scheme.isSome ∧ base.authority.isSome) ∧
      ∀ second, late = .ok second → ∀ t ∈ (second.run actions).1,
        t.answer.received = [] ∧ ∃ e, t.answer.result = .error e) := by
  intro completed early late
  constructor
  · intro key hkey hne
    refine ⟨fun e => error_iff_of_key hconfig hkey hne, fun first second hfirst hsecond => ?_⟩
    have hfirst : withProvider completed (.fixed key) = .ok first :=
      (ofEnvironment_of_key hconfig hkey hne).symm.trans hfirst
    exact run_seen_of_key hkey hne hfirst hsecond actions hfixed
  · intro hmissing
    refine ⟨⟨_, ofEnvironment_of_missing hconfig hmissing, rfl⟩, fun e => kind_of_withProvider,
      fun second hsecond => ?_⟩
    obtain ⟨-, rfl⟩ := withProvider_eq_ok_iff.mp hsecond
    refine run_of_settled_none actions fun o ho loads => ?_
    rw [hfixed o ho]
    exact congrArg Loaded.result (Provider.load_environment_of_missing hmissing loads)

/-- So with a key and an address that are variables, for a call and its repetition through a
copy. With an empty key, the client that looks it up can be made, but sends nothing. -/
theorem lookedUp_seen_alike_copy :
    ∃ (env empty : Environment) (first second third : Client) (o o' : Occasion),
      env.lookUp VariableName.apiKey = some "key" ∧
      (ofEnvironment {} env).1 = .ok first ∧
      withProvider (Config.fromEnvironment {} env).1 .environment = .ok second ∧
      (first.run [.ask 0 o, .copy 0, .ask 1 o]).1.map (·.answer.seen) =
        (second.run [.ask 0 o, .copy 0, .ask 1 o]).1.map (·.answer.seen) ∧
      empty.lookUp VariableName.apiKey = some "" ∧
      withProvider (Config.fromEnvironment {} empty).1 .environment = .ok third ∧
      ∀ t ∈ (third.run [.ask 0 o']).1, t.answer.received = [] := by
  let env : Environment :=
    .ofList [(VariableName.apiKey, "key"), (VariableName.baseUrl, "https://h/")]
  let empty : Environment := .ofList [(VariableName.apiKey, "")]
  let now : Instant := ⟨0, 0, by decide, by decide, by decide⟩
  let o : Occasion := ⟨⟨.missing, env⟩, now, ⟨.get, "/a", none⟩⟩
  let o' : Occasion := ⟨⟨.missing, empty⟩, now, ⟨.get, "/a", none⟩⟩
  have hbase : Uri.ofText (Config.fromEnvironment {} env).1.baseUrl =
      .ok ⟨some .https, some ⟨"h"⟩, .empty⟩ := by cbv
  have hdefault : Uri.ofText (Config.fromEnvironment {} empty).1.baseUrl =
      .ok ⟨some .https, some ⟨"api.pipaymentgateway.com"⟩, .empty⟩ := by cbv
  have hconfig : Config.apiKey {} = none := rfl
  have hkey : env.lookUp VariableName.apiKey = some "key" := rfl
  have hempty : empty.lookUp VariableName.apiKey = some "" := rfl
  have hfirst : (ofEnvironment {} env).1 = .ok _ :=
    (ofEnvironment_of_key hconfig hkey (by decide)).trans
      (withProvider_eq_ok_iff.mpr ⟨⟨_, hbase, rfl, rfl⟩, rfl⟩)
  have hsecond : withProvider (Config.fromEnvironment {} env).1 .environment = .ok _ :=
    withProvider_eq_ok_iff.mpr ⟨⟨_, hbase, rfl, rfl⟩, rfl⟩
  have hthird : withProvider (Config.fromEnvironment {} empty).1 .environment = .ok _ :=
    withProvider_eq_ok_iff.mpr ⟨⟨_, hdefault, rfl, rfl⟩, rfl⟩
  obtain ⟨-, hseen⟩ := (lookedUp_seen_alike hconfig env [.ask 0 o, .copy 0, .ask 1 o]
    (by simp [Copies.asked, o])).1 "key" hkey (by decide)
  obtain ⟨-, -, hnothing⟩ := (lookedUp_seen_alike hconfig empty [.ask 0 o']
    (by simp [Copies.asked, o'])).2 fun key h =>
      Option.some.inj (h.symm.trans hempty)
  exact ⟨env, empty, _, _, _, o, o', hkey, hfirst, hsecond, hseen _ _ hfirst hsecond, hempty, hthird,
    fun t ht => (hnothing _ hthird t ht).1⟩

end Client

end SignedPayments
