import SignedPayments.Client
import SignedPayments.Proofs.Signing.Seal
import SignedPayments.Proofs.Signing.Signer

/-!
# SignedPayments.Proofs.Client.Sent

What a sent request is made of. `Client.Sends` names the parts that a call puts a
request together from, each with the step that gave it; whatever a transport receives is made
of such parts (`Client.sends_of_received`). It says nothing about a key but that the signer found it
in the vault that the call was given.

Calls leave vaults that can be reached (`Client.reachable_execute`), so what holds of
those holds for every call of a run (`Client.reachable_vaultAfter`).
-/

namespace SignedPayments

open Http Signing

theorem Http.orError_eq_ok_iff {α : Type} {x : Except Fault α} {a : α} :
    orError x = .ok a ↔ x = .ok a := by
  cases x <;> simp [orError]

namespace Client

variable {client : Client} {context : Context} {vault : Vault} {now : Instant} {call : Call}

/-! ### Making clients -/

/-- A client is made if the address of its configuration is an absolute uri. -/
theorem withProvider_eq_ok_iff {config : Config} {provider : Provider} :
    withProvider config provider = .ok client ↔
      (∃ base, Uri.ofText config.baseUrl = .ok base ∧ base.scheme.isSome ∧ base.authority.isSome) ∧
        client = ⟨config.baseUrl, config.timeout, ⟨provider⟩⟩ := by
  unfold withProvider
  cases hbase : Uri.ofText config.baseUrl with
  | error fault => simp
  | ok base =>
      dsimp only
      by_cases habsolute : base.scheme.isSome ∧ base.authority.isSome
      · rw [if_pos (Bool.and_eq_true_iff.mpr habsolute), Except.ok.injEq, eq_comm]
        exact ⟨fun h => ⟨⟨base, rfl, habsolute⟩, h⟩, And.right⟩
      · rw [if_neg (mt Bool.and_eq_true_iff.mp habsolute)]
        constructor
        · intro h
          cases h
        · rintro ⟨⟨_, ⟨rfl⟩, hbase⟩, -⟩
          exact absurd hbase habsolute

/-- A client of a configuration has its key. -/
theorem ofConfig_eq_ok_iff {config : Config} :
    ofConfig config = .ok client ↔
      ∃ apiKey, config.apiKey = some apiKey ∧ apiKey ≠ "" ∧
        withProvider config (.fixed apiKey) = .ok client := by
  unfold ofConfig
  cases config.apiKey with
  | none => simp
  | some apiKey =>
      rw [Option.filter_some]
      by_cases hempty : apiKey = ""
      · simp [hempty]
      · simp [hempty]

/-- With a key and an absolute uri as its address, a configuration makes a client. -/
theorem ofConfig_of_base {config : Config} {apiKey : String} {base : Uri}
    (hkey : config.apiKey = some apiKey) (hne : apiKey ≠ "")
    (hbase : Uri.ofText config.baseUrl = .ok base) (hscheme : base.scheme.isSome)
    (hauthority : base.authority.isSome) :
    ofConfig config = .ok ⟨config.baseUrl, config.timeout, ⟨.fixed apiKey⟩⟩ :=
  ofConfig_eq_ok_iff.mpr ⟨apiKey, hkey, hne,
    withProvider_eq_ok_iff.mpr ⟨⟨base, hbase, hscheme, hauthority⟩, rfl⟩⟩

/-! ### Preparing -/

/-- Clients for one address prepare the same. -/
theorem prepare_congr {other : Client} (h : client.baseUrl = other.baseUrl) (call : Call) :
    client.prepare call = other.prepare call := by
  unfold prepare Client.head
  rw [h]

/-- Clients with one time limit conclude the same. -/
theorem conclude_congr {other : Client} (h : client.timeout = other.timeout) (call : Call)
    (reply : Reply) : client.conclude call reply = other.conclude call reply := by
  unfold conclude timedOut
  rw [h]

/-- The head of the request for a call, before it is signed. -/
def unsigned (call : Call) (uri : Uri) : Head where
  method := call.method
  uri := uri
  headers := [(.contentType, json), (.accept, json)]
  signedEndpoint := some call.endpoint

theorem head_eq_ok_iff {head : Head} :
    client.head call = .ok head ↔
      ∃ uri, Uri.ofText (client.baseUrl ++ call.endpoint) = .ok uri ∧ head = unsigned call uri := by
  unfold Client.head
  rw [bind_eq_ok]
  refine exists_congr fun uri => and_congr_right fun _ => ?_
  rw [pure_eq_ok, eq_comm, unsigned]

/-- A request is prepared if the endpoint begins with a slash, the body can be written,
and address and endpoint are a uri. -/
theorem prepare_eq_ok_iff {head : Head} {body : Option Bytes} :
    client.prepare call = .ok (head, body) ↔
      call.endpoint.toList.head? = some '/' ∧ writeBody call.body = .ok body ∧
        ∃ uri, Uri.ofText (client.baseUrl ++ call.endpoint) = .ok uri ∧
          head = unsigned call uri := by
  unfold prepare
  dsimp only
  rw [refuse_eq_ok, ne_eq, Decidable.not_not]
  simp only [bind_eq_ok, pure_eq_ok, orError_eq_ok_iff, head_eq_ok_iff, Prod.mk.injEq]
  constructor
  · rintro ⟨hslash, _, hbody, _, huri, rfl, rfl⟩
    exact ⟨hslash, hbody, huri⟩
  · rintro ⟨hslash, hbody, huri⟩
    exact ⟨hslash, body, hbody, head, huri, rfl, rfl⟩

/-! ### Sending -/

section

variable {e : Error} {head : Head} {body : Option Bytes} {request : Request}

theorem execute_of_unprepared (h : client.prepare call = .error e) :
    client.execute context vault now call = { result := .error e, vault := vault } := by
  unfold execute perform
  rw [h]
  rfl

theorem execute_of_unsigned (h : client.prepare call = .ok (head, body))
    (hsign : (client.signer.sign context.environment vault now head body).result = .error e) :
    client.execute context vault now call =
      let signed := client.signer.sign context.environment vault now head body
      { result := .error e, vault := signed.vault, log := signed.log } := by
  unfold execute perform
  rw [h]
  dsimp only
  rw [hsign]
  rfl

theorem execute_of_signed (h : client.prepare call = .ok (head, body))
    (hsign : (client.signer.sign context.environment vault now head body).result = .ok ()) :
    client.execute context vault now call =
      let signed := client.signer.sign context.environment vault now head body
      let request : Request := ⟨signed.head, body.getD []⟩
      let concluded := client.conclude call (context.transport.send request)
      { result := concluded.1
        vault := signed.vault
        log := signed.log ++ sendingEntry call :: concluded.2
        received := [request] } := by
  unfold execute perform
  rw [h]
  dsimp only
  rw [hsign]
  rfl

/-- The transport receives a request if it was prepared and signed. -/
theorem mem_received_iff :
    request ∈ (client.execute context vault now call).received ↔
      ∃ head body, client.prepare call = .ok (head, body) ∧
        (client.signer.sign context.environment vault now head body).result = .ok () ∧
        request =
          ⟨(client.signer.sign context.environment vault now head body).head, body.getD []⟩ := by
  cases hprepare : client.prepare call with
  | error e => simp [execute_of_unprepared hprepare]
  | ok prepared =>
      obtain ⟨head, body⟩ := prepared
      cases hsign : (client.signer.sign context.environment vault now head body).result with
      | error e =>
          rw [execute_of_unsigned hprepare hsign]
          simp only [List.not_mem_nil, Except.ok.injEq, Prod.mk.injEq, false_iff]
          rintro ⟨_, _, ⟨rfl, rfl⟩, hok, -⟩
          rw [hsign] at hok
          cases hok
      | ok _ =>
          rw [execute_of_signed hprepare hsign]
          simp only [List.mem_singleton, Except.ok.injEq, Prod.mk.injEq]
          constructor
          · rintro rfl
            exact ⟨head, body, ⟨rfl, rfl⟩, hsign, rfl⟩
          · rintro ⟨_, _, ⟨rfl, rfl⟩, -, rfl⟩
            rfl

/-- What was received is all that was received, and the call comes to what is concluded from the
reply to it. -/
theorem exchange_of_received (h : request ∈ (client.execute context vault now call).received) :
    (client.execute context vault now call).received = [request] ∧
      (client.execute context vault now call).result =
        (client.conclude call (context.transport.send request)).1 := by
  obtain ⟨head, body, hprepare, hsign, rfl⟩ := mem_received_iff.mp h
  rw [execute_of_signed hprepare hsign]
  exact ⟨rfl, rfl⟩

theorem exists_received (h : (client.execute context vault now call).sent.isSome) :
    ∃ request, request ∈ (client.execute context vault now call).received := by
  obtain ⟨request, hsent⟩ := Option.isSome_iff_exists.mp h
  exact ⟨request, List.mem_of_head? hsent⟩

/-- Whatever a transport received before, a call adds what it would send alone. -/
theorem run_perform (received : List Request) :
    (client.perform context vault now call).run received =
      let done := client.execute context vault now call
      ((done.result, done.vault, done.log), received ++ done.received) := by
  unfold execute perform
  cases client.prepare call with
  | error e => exact congrArg (Prod.mk _) (List.append_nil received).symm
  | ok prepared =>
      obtain ⟨head, body⟩ := prepared
      dsimp only
      cases (client.signer.sign context.environment vault now head body).result with
      | error e => exact congrArg (Prod.mk _) (List.append_nil received).symm
      | ok _ => rfl

end

/-- The parts of a request: the credential, the uri of address and endpoint with its
authority, the body as it was written and as it was read, and the target that was read
again. -/
structure Sends (client : Client) (now : Instant) (call : Call) (c : Credential) (uri : Uri)
    (authority : Authority) (body : Option Bytes) (raw : Option Json.Raw) (target : Target)
    (request : Request) : Prop where
  slash : call.endpoint.toList.head? = some '/'
  written : writeBody call.body = .ok body
  read : readBody body = .ok raw
  uri_eq : Uri.ofText (client.baseUrl ++ call.endpoint) = .ok uri
  authority_eq : uri.authority = some authority
  target_eq : Target.ofText (shownTarget (unsigned call uri)).sent = .ok target
  request_eq : request =
    ⟨sealedHead (unsigned call uri) authority target c.apiKey (Timestamp.format now) raw,
      body.getD []⟩

/-- Whatever is received is made of the parts of a request, and the signer found the
credential. -/
theorem sends_of_received {request : Request}
    (h : request ∈ (client.execute context vault now call).received) :
    ∃ c uri authority body raw target,
      (client.signer.credential context.environment vault).1 = .ok c ∧
        Sends client now call c uri authority body raw target request := by
  obtain ⟨head, body, hprepare, hsign, rfl⟩ := mem_received_iff.mp h
  obtain ⟨hslash, hwritten, uri, huri, rfl⟩ := prepare_eq_ok_iff.mp hprepare
  obtain ⟨c, hc, hseal, hhead⟩ := Signer.sign_inv hsign
  obtain ⟨_, raw, authority, target, hsome, hread, hauthority, htarget, hsealed⟩ :=
    sealHead_inv hseal
  cases hsome
  refine ⟨c, uri, authority, body, raw, target, hc, ?_⟩
  exact ⟨hslash, hwritten, hread, huri, hauthority, htarget, by rw [hhead, hsealed]⟩

/-! ### Runs -/

/-- A call that can be prepared leaves the vault as finding a credential leaves it, whether or
not signing fails then. -/
theorem vault_of_prepare {prepared : Head × Option Bytes} (h : client.prepare call = .ok prepared) :
    (client.execute context vault now call).vault =
      (client.signer.credential context.environment vault).2.1 := by
  obtain ⟨head, body⟩ := prepared
  rw [← client.signer.vault_sign context.environment vault now head body]
  cases hsign : (client.signer.sign context.environment vault now head body).result with
  | error e => rw [execute_of_unsigned h hsign]
  | ok _ => rw [execute_of_signed h hsign]

/-- A call leaves the vault alone, or as finding a credential leaves it. -/
theorem vault_execute (client : Client) (context : Context) (vault : Vault) (now : Instant)
    (call : Call) :
    (client.execute context vault now call).vault = vault ∨
      (client.execute context vault now call).vault =
        (client.signer.credential context.environment vault).2.1 := by
  cases hprepare : client.prepare call with
  | error e => exact .inl (by rw [execute_of_unprepared hprepare])
  | ok prepared => exact .inr (vault_of_prepare hprepare)

theorem reachable_execute (h : Vault.Reachable client.signer.provider vault) :
    Vault.Reachable client.signer.provider (client.execute context vault now call).vault := by
  rcases client.vault_execute context vault now call with hvault | hvault
  · rw [hvault]
    exact h
  · rw [hvault]
    exact Signer.reachable_credential h

/-- What a client and its copies keep after calls. -/
def vaultAfter (client : Client) (history : List Occasion) : Vault :=
  history.foldl (fun vault o => (client.execute o.context vault o.now o.call).vault) {}

theorem reachable_foldl (history : List Occasion)
    (h : Vault.Reachable client.signer.provider vault) :
    Vault.Reachable client.signer.provider (history.foldl
      (fun vault o => (client.execute o.context vault o.now o.call).vault) vault) := by
  induction history generalizing vault with
  | nil => exact h
  | cons o history ih => exact ih (reachable_execute h)

/-- Every vault of a run can be reached. -/
theorem reachable_vaultAfter (client : Client) (history : List Occasion) :
    Vault.Reachable client.signer.provider (client.vaultAfter history) :=
  reachable_foldl history .fresh

end Client

end SignedPayments
