import SignedPayments.Proofs.Client.Sent
import SignedPayments.Proofs.Signing.Alike

/-!
# SignedPayments.Proofs.Client.Alike

Two clients whose keys differ, seen from outside. Configurations and clients are alike if
they are the same apart from keys that are alike.

Clients that are alike are made of configurations that are alike (`Client.ofConfig_alike`).
Their calls, where these have the same reply, come to the same result and tell the same
(`Client.execute_alike`).
-/

namespace SignedPayments

open Http Signing

/-! ### Configurations -/

/-- Configurations that are the same apart from keys that are alike. -/
structure Config.Alike (config config' : Config) : Prop where
  apiKey : Option.Rel KeyAlike config.apiKey config'.apiKey
  baseUrl? : config.baseUrl? = config'.baseUrl?
  timeout? : config.timeout? = config'.timeout?

namespace Config

variable {config config' : Config}

theorem Alike.baseUrl_eq (h : config.Alike config') : config.baseUrl = config'.baseUrl := by
  unfold Config.baseUrl
  rw [h.baseUrl?]

theorem Alike.timeout_eq (h : config.Alike config') : config.timeout = config'.timeout := by
  unfold Config.timeout
  rw [h.timeout?]

theorem Alike.describe_eq (h : config.Alike config') : config.describe = config'.describe := by
  unfold describe
  rw [Redacted.ofSecret?_eq h.apiKey, h.baseUrl?, h.timeout?]

/-- Environments that are alike complete configurations in the same way. -/
theorem fromEnvironment_alike {env env' : Environment} (h : config.Alike config')
    (henv : env.Alike env') :
    (config.fromEnvironment env).1.Alike (config'.fromEnvironment env').1 ∧
      (config.fromEnvironment env).2 = (config'.fromEnvironment env').2 := by
  have htimeout : timeoutOf env = timeoutOf env' := by
    unfold timeoutOf
    rw [henv.others VariableName.timeout (by decide)]
  have hbaseUrl := henv.others VariableName.baseUrl (by decide)
  unfold fromEnvironment
  rw [htimeout, hbaseUrl, h.baseUrl?, h.timeout?]
  refine ⟨⟨?_, rfl, rfl⟩, rfl⟩
  have hkey := h.apiKey
  dsimp only
  generalize config.apiKey = key?, config'.apiKey = key?' at hkey
  cases hkey with
  | none => exact henv.apiKey
  | some hkey => exact .some hkey

end Config

namespace Client

/-! ### Clients -/

/-- Clients for one address, with providers that are alike. -/
structure Alike (client client' : Client) : Prop where
  baseUrl : client.baseUrl = client'.baseUrl
  timeout : client.timeout = client'.timeout
  provider : client.signer.provider.Alike client'.signer.provider

variable {config config' : Config} {client client' : Client} {vault vault' : Vault}

theorem withProvider_alike {p q : Provider} (h : config.Alike config') (hprovider : p.Alike q) :
    OutcomeRel Alike (withProvider config p) (withProvider config' q) := by
  unfold withProvider
  rw [h.baseUrl_eq, h.timeout_eq]
  cases Uri.ofText config'.baseUrl with
  | error fault => exact .error _
  | ok uri =>
      dsimp only
      split
      · exact .ok ⟨rfl, rfl, hprovider⟩
      · exact .error _

theorem ofConfig_alike (h : config.Alike config') :
    OutcomeRel Alike (ofConfig config) (ofConfig config') := by
  have hkey := h.apiKey
  unfold ofConfig
  generalize config.apiKey = key?, config'.apiKey = key?' at hkey
  cases hkey with
  | none => exact .error _
  | @some a b hkey =>
      by_cases hempty : a = ""
      · have hempty' := hkey.eq_empty_iff.mp hempty
        simp only [Option.filter_some, hempty, hempty']
        exact .error _
      · have hne := mt hkey.eq_empty_iff.mpr hempty
        simp only [Option.filter_some, ne_eq, hempty, hne, not_false_eq_true, decide_true, if_true]
        exact withProvider_alike h (Provider.fixed_alike hkey)

theorem describe_alike {context context' : Context} (h : client.Alike client')
    (hcontext : context.describe = context'.describe) (hvault : vault.Alike vault') :
    client.describe context vault = client'.describe context' vault' := by
  unfold describe
  rw [h.baseUrl, h.timeout, Signer.describe_alike h.provider.name hcontext hvault]

/-! ### Calls -/

/-- Calls of clients that are alike, with vaults that are alike and one reply, come to the
same result, tell the same and leave vaults that are alike. The requests that are sent
differ. -/
theorem execute_alike (context context' : Context) (h : client.Alike client')
    (henv : context.environment.Alike context'.environment)
    (hreply : ∀ request request', context.transport.send request = context'.transport.send request')
    (hvault : vault.Alike vault') (now : Instant) (call : Call) :
    (client.execute context vault now call).result = (client'.execute context' vault' now call).result ∧
      (client.execute context vault now call).log = (client'.execute context' vault' now call).log ∧
      (client.execute context vault now call).vault.Alike
        (client'.execute context' vault' now call).vault := by
  cases hprepare' : client'.prepare call with
  | error e =>
      have hprepare := (prepare_congr h.baseUrl call).trans hprepare'
      rw [execute_of_unprepared hprepare, execute_of_unprepared hprepare']
      exact ⟨rfl, rfl, hvault⟩
  | ok prepared =>
      obtain ⟨head, body⟩ := prepared
      have hprepare := (prepare_congr h.baseUrl call).trans hprepare'
      obtain ⟨hresult, hlog, hleft⟩ := Signer.sign_alike h.provider henv hvault now head body
      cases hsign : (client'.signer.sign context'.environment vault' now head body).result with
      | error e =>
          rw [execute_of_unsigned hprepare (hresult.trans hsign), execute_of_unsigned hprepare' hsign]
          exact ⟨rfl, hlog, hleft⟩
      | ok _ =>
          rw [execute_of_signed hprepare (hresult.trans hsign), execute_of_signed hprepare' hsign]
          dsimp only
          rw [conclude_congr h.timeout, hlog, hreply]
          exact ⟨rfl, rfl, hleft⟩

end Client

end SignedPayments
