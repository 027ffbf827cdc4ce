import SignedPayments.Proofs.Client.Sent
import SignedPayments.Proofs.Copies

/-!
# SignedPayments.Proofs.Client.History

What others see of a call, its request and its result, does not depend on the calls before
it, nor on the copy that makes it (`Client.run_seen_alone`).

A call depends on what is kept by the credential that it finds, and by nothing else
(`Client.seen_execute`). A client with a key keeps nothing or this key, whatever its calls
came to, so each of them finds what the first one would.
-/

namespace SignedPayments

open Http Signing

namespace Client

variable {client other : Client} {context : Context} {vault vault' : Vault} {c : Credential}

/-! ### One call -/

/-- Two clients for one address are seen alike, if both find the same credential. -/
theorem seen_execute (hurl : client.baseUrl = other.baseUrl) (htimeout : client.timeout = other.timeout)
    (hc : (client.signer.credential context.environment vault).1 = .ok c)
    (hc' : (other.signer.credential context.environment vault').1 = .ok c)
    (now : Instant) (call : Call) :
    (client.execute context vault now call).seen = (other.execute context vault' now call).seen := by
  cases hprepare' : other.prepare call with
  | error e =>
      have hprepare := (prepare_congr hurl call).trans hprepare'
      rw [execute_of_unprepared hprepare, execute_of_unprepared hprepare']
      rfl
  | ok prepared =>
      obtain ⟨head, body⟩ := prepared
      have hprepare := (prepare_congr hurl call).trans hprepare'
      obtain ⟨hresult, hhead⟩ := Signer.sign_of_ok hc now head body
      obtain ⟨hresult', hhead'⟩ := Signer.sign_of_ok hc' now head body
      cases hsealed : (sealHead (some c) now head body).result with
      | error e =>
          rw [execute_of_unsigned hprepare (hresult.trans hsealed),
            execute_of_unsigned hprepare' (hresult'.trans hsealed)]
          rfl
      | ok _ =>
          rw [execute_of_signed hprepare (hresult.trans hsealed),
            execute_of_signed hprepare' (hresult'.trans hsealed)]
          simp only [Exchange.seen, hhead, hhead', conclude_congr htimeout]

/-- A call keeps no other credential than a settled provider gives. -/
theorem keeps_execute (hsettled : client.signer.provider.Settled context.environment (some c))
    (hvalid : c.isValid = true) (hkeeps : vault.Keeps (· = c)) (now : Instant) (call : Call) :
    (client.execute context vault now call).vault.Keeps (· = c) := by
  rcases client.vault_execute context vault now call with hvault | hvault
  · rw [hvault]
    exact hkeeps
  · rw [hvault]
    exact (Signer.credential_of_settled hsettled hvalid hkeeps).2

/-! ### Runs -/

/-- With a provider that is settled wherever a client is called, each call is seen as that
of a client for the same address that finds what this provider gives and kept nothing
before. -/
theorem seen_run (client other : Client) (hurl : client.baseUrl = other.baseUrl)
    (htimeout : client.timeout = other.timeout) (hvalid : c.isValid = true) (actions : List (Action Occasion))
    (hsettled : ∀ o ∈ Copies.asked 1 actions,
      client.signer.provider.Settled o.context.environment (some c) ∧
        other.signer.provider.Settled o.context.environment (some c)) :
    (client.run actions).1.map (·.answer.seen) =
      (Copies.asked 1 actions).map fun o => (other.execute o.context {} o.now o.call).seen := by
  have hempty : Vault.Keeps {} (· = c) := by
    intro d hd
    cases hd
  have hshared := Copies.shared_single client ({} : Vault)
  have hanswers : ∀ t ∈ (client.run actions).1, t.answer.seen =
      (other.execute t.request.context {} t.request.now t.request.call).seen := by
    refine hshared.run_answers (P := (Vault.Keeps · (· = c)))
      (R := fun o done => done.seen = (other.execute o.context {} o.now o.call).seen)
      serve hempty ?_ hsettled
    intro vault o hkeeps hboth
    obtain ⟨hfirst, hother⟩ := hboth
    refine ⟨?_, keeps_execute hfirst hvalid hkeeps o.now o.call⟩
    exact seen_execute hurl htimeout (Signer.credential_of_settled hfirst hvalid hkeeps).1
      (Signer.credential_of_settled hother hvalid hempty).1 o.now o.call
  calc
    (client.run actions).1.map (·.answer.seen) =
        (client.run actions).1.map
          fun t => (other.execute t.request.context {} t.request.now t.request.call).seen :=
      List.map_congr_left hanswers
    _ = ((client.run actions).1.map (·.request)).map
          fun o => (other.execute o.context {} o.now o.call).seen := by
      rw [List.map_map]
      rfl
    _ = _ := by
      rw [run, hshared.run_requests serve actions]
      rfl

/-- Each call through a client with a key, or through a copy of it, sends the request and has
the result that it would have alone, made by a client that was only just made of the same
configuration. The calls before it do not matter, nor what they came to. -/
theorem run_seen_alone {config : Config} (hclient : ofConfig config = .ok client)
    (actions : List (Action Occasion)) :
    ∀ fresh, ofConfig config = .ok fresh →
      (client.run actions).1.map (·.answer.seen) =
        (Copies.asked 1 actions).map fun o => (fresh.execute o.context {} o.now o.call).seen := by
  intro fresh hfresh
  obtain rfl : client = fresh := Except.ok.inj (hclient.symm.trans hfresh)
  obtain ⟨apiKey, -, hne, hmade⟩ := ofConfig_eq_ok_iff.mp hclient
  obtain ⟨-, rfl⟩ := withProvider_eq_ok_iff.mp hmade
  exact seen_run _ _ (c := ⟨apiKey⟩) rfl rfl (by simp [Credential.isValid, hne]) actions
    fun o _ => ⟨Provider.fixed_settled apiKey _, Provider.fixed_settled apiKey _⟩

/-- So a call through a copy, after one that was refused and one that was never answered. It
is sent as it would be alone, although the key was found by the call before. -/
theorem run_seen_alone_after_silence : ∃ client refused silent good,
    ofConfig { apiKey := some "key", baseUrl? := some "https://h/" } = .ok client ∧
    (client.run [.ask 0 refused, .copy 0, .ask 0 silent, .ask 1 good]).1.map (·.answer.seen) =
      [refused, silent, good].map
        (fun o => (client.execute o.context {} o.now o.call).seen) ∧
    (client.execute refused.context {} refused.now refused.call).received = [] ∧
    (client.execute good.context {} good.now good.call).received.length = 1 := by
  let config : Config := { apiKey := some "key", baseUrl? := some "https://h/" }
  let client : Client := ⟨config.baseUrl, config.timeout, ⟨.fixed "key"⟩⟩
  let now : Instant := ⟨0, 0, by decide, by decide, by decide⟩
  let silence : Context := ⟨⟨"silent", fun _ => .silence⟩, .empty⟩
  have hbase : Uri.ofText config.baseUrl = .ok ⟨some .https, some ⟨"h"⟩, .empty⟩ := by cbv
  have hmade : ofConfig config = .ok client := ofConfig_of_base rfl (by decide) hbase rfl rfl
  refine ⟨client, ⟨.empty, now, ⟨.get, "a", none⟩⟩, ⟨silence, now, ⟨.get, "/a", none⟩⟩,
    ⟨.empty, now, ⟨.post, "/a", some (.json .null)⟩⟩, hmade, ?_, by decide +kernel, by decide +kernel⟩
  exact run_seen_alone hmade _ client hmade

end Client

end SignedPayments
