import SignedPayments.Proofs.Client.Answer
import SignedPayments.Proofs.Client.Destination
import SignedPayments.Proofs.Http.Reread
import SignedPayments.Proofs.Json.Written
import SignedPayments.Proofs.Signing.Refusal

/-!
# SignedPayments.Proofs.Client.Admission

Exactly which calls send a request. Four things are asked of a call (`Client.Sendable`),
and the steps of a call ask for more: the body that was written is read again, the head
must say where it goes, three headers are set, and the target is read a second time. None
of these can fail after the four.

* What is written is a text (`Body.exists_read_of_write`).
* The address of a client is absolute, so the head has an authority
  (`Uri.origin_of_append`), and its target can be read again (`Uri.exists_ofText_sent`).
* Of the headers, only the one with the key can be refused (`sealHead_eq_ok_iff`).
* The key of a client is always found (`Signer.credential_fixed`).
-/

namespace SignedPayments

open Http Signing

/-! ### Finding the key -/

/-- A signer with a fixed key finds it, whatever was called before. -/
theorem Signing.Signer.credential_fixed {apiKey : String} {vault : Vault} (hne : apiKey ≠ "")
    (h : Vault.Reachable (.fixed apiKey) vault) (env : Environment) :
    (Signer.credential ⟨.fixed apiKey⟩ env vault).1 = .ok ⟨apiKey⟩ := by
  exact (credential_of_settled (Provider.fixed_settled apiKey env) (by simp [Credential.isValid, hne])
    (h.keeps (Provider.fixed_gives apiKey))).1

namespace Client

variable {client : Client} {context : Context} {vault : Vault} {now : Instant} {call : Call}
  {apiKey : String} {base : Uri}

/-! ### Preparing -/

/-- A call whose request can be prepared. -/
structure Preparable (client : Client) (call : Call) : Prop where
  /-- The endpoint begins with a slash. -/
  slash : call.endpoint.toList.head? = some '/'
  /-- The body, if there is one, can be written. -/
  written : ∀ body ∈ call.body, ∃ bytes, body.write = .ok bytes
  /-- The address and the endpoint are a uri. -/
  address : ∃ uri, Uri.ofText (client.baseUrl ++ call.endpoint) = .ok uri

theorem exists_writeBody_iff {body : Option Body} :
    (∃ bytes, writeBody body = .ok bytes) ↔ ∀ b ∈ body, ∃ bytes, b.write = .ok bytes := by
  cases body with
  | none => simp [writeBody]
  | some body => cases hwrite : body.write <;> simp [writeBody, hwrite]

theorem preparable_iff :
    Preparable client call ↔ ∃ head body, client.prepare call = .ok (head, body) := by
  simp only [prepare_eq_ok_iff]
  constructor
  · rintro ⟨hslash, hwritten, uri, huri⟩
    obtain ⟨bytes, hbytes⟩ := exists_writeBody_iff.mpr hwritten
    exact ⟨_, bytes, hslash, hbytes, uri, huri, rfl⟩
  · rintro ⟨head, bytes, hslash, hbytes, uri, huri, -⟩
    exact ⟨hslash, exists_writeBody_iff.mp ⟨bytes, hbytes⟩, uri, huri⟩

theorem isRefusal_of_writeBody {body : Option Body} {e : Error} (h : writeBody body = .error e) :
    IsRefusal e := by
  cases body with
  | none => cases h
  | some body =>
      cases hwrite : body.write with
      | ok bytes => simp [writeBody, hwrite] at h
      | error fault =>
          obtain rfl : unwritable fault = e := by simpa [writeBody, hwrite] using h
          exact ⟨rfl, rfl, rfl⟩

/-- A request that cannot be prepared is refused. -/
theorem isRefusal_of_prepare {e : Error} (h : client.prepare call = .error e) : IsRefusal e := by
  unfold prepare at h
  dsimp only at h
  rcases refuse_eq_error.mp h with ⟨-, rfl⟩ | ⟨-, h⟩
  · exact ⟨rfl, rfl, rfl⟩
  rcases bind_eq_error.mp h with hbody | ⟨body, -, h⟩
  · exact isRefusal_of_writeBody hbody
  rcases bind_eq_error.mp h with hhead | ⟨head, -, h⟩
  · cases hfault : client.head call with
    | ok head => simp [hfault, orError] at hhead
    | error fault =>
        obtain rfl : fault.error = e := by simpa [hfault, orError] using hhead
        exact isRefusal_fault fault
  · cases h

/-- A body that was written is read. -/
theorem exists_readBody {body : Option Body} {bytes : Option Bytes}
    (h : writeBody body = .ok bytes) : ∃ raw, readBody bytes = .ok raw := by
  cases body with
  | none =>
      cases h
      exact ⟨none, rfl⟩
  | some body =>
      cases hwrite : body.write with
      | error fault => simp [writeBody, hwrite] at h
      | ok written =>
          obtain rfl : some written = bytes := by simpa [writeBody, hwrite] using h
          obtain ⟨raw, hraw⟩ := body.exists_read_of_write hwrite
          exact ⟨some raw, by simp [readBody, hraw]⟩

/-- A prepared head says where it goes, and its target can be read again. -/
theorem head_of_prepare {head : Head} {body : Option Bytes}
    (hbase : Uri.ofText client.baseUrl = .ok base) (hscheme : base.scheme.isSome)
    (hauthority : base.authority.isSome) (h : client.prepare call = .ok (head, body)) :
    head.uri.authority.isSome ∧ ∃ target, Target.ofText (shownTarget head).sent = .ok target := by
  obtain ⟨hslash, -, uri, huri, rfl⟩ := prepare_eq_ok_iff.mp h
  obtain ⟨hscheme', hauthority'⟩ := Uri.origin_of_append hbase hscheme hslash huri
  have hsome : uri.scheme.isSome := by rw [hscheme', hscheme]
  have hshown : shownTarget (unsigned call uri) = uri.target := shownTarget_of_scheme hsome
  refine ⟨(congrArg Option.isSome hauthority').trans hauthority, ?_⟩
  rw [hshown]
  exact Uri.exists_ofText_sent huri hsome

/-- Taking a prepared head apart cannot fail, nor can putting it together again, whatever
headers were set meanwhile. -/
theorem draft_of_prepare {head : Head} {body : Option Bytes}
    (hbase : Uri.ofText client.baseUrl = .ok base) (hscheme : base.scheme.isSome)
    (hauthority : base.authority.isSome) (h : client.prepare call = .ok (head, body)) :
    ∃ draft, (Draft.start head).result = .ok draft ∧ ∀ headers left,
      (Draft.finish { draft with headers := headers } left).result = .ok () := by
  obtain ⟨hsome, target, htarget⟩ := head_of_prepare hbase hscheme hauthority h
  obtain ⟨authority, hauthority'⟩ := Option.isSome_iff_exists.mp hsome
  refine ⟨Draft.ofHead head authority, by rw [Draft.start_of_authority hauthority'], ?_⟩
  intro headers left
  have hpath : Target.ofText (Draft.pathAndQuery
      { Draft.ofHead head authority with headers := headers }) = .ok target := htarget
  rw [Draft.finish_of_ok hpath]

/-! ### Sending -/

/-- What is asked of a call for its request to be sent. -/
structure Sendable (client : Client) (apiKey : String) (call : Call) : Prop
    extends Preparable client call where
  /-- The key can stand in a header. -/
  bearer : ∃ value, HeaderValue.ofText ("Bearer " ++ apiKey) = .ok value

section

variable {env : Environment} (hbase : Uri.ofText client.baseUrl = .ok base)
  (hscheme : base.scheme.isSome) (hauthority : base.authority.isSome)
  (hfound : (client.signer.credential context.environment vault).1 = .ok ⟨apiKey⟩)

include hbase hscheme hauthority hfound

/-- Of a prepared request, nothing but the key can be refused. -/
theorem sign_eq_ok_iff_of_prepare {head : Head} {body : Option Bytes}
    (h : client.prepare call = .ok (head, body)) :
    (client.signer.sign context.environment vault now head body).result = .ok () ↔
      ∃ value, HeaderValue.ofText ("Bearer " ++ apiKey) = .ok value := by
  obtain ⟨-, hwritten, -⟩ := prepare_eq_ok_iff.mp h
  obtain ⟨hsome, htarget⟩ := head_of_prepare hbase hscheme hauthority h
  rw [(Signer.sign_of_ok hfound now head body).1, sealHead_eq_ok_iff]
  exact ⟨fun hsealed => hsealed.2.2.1,
    fun hkey => ⟨exists_readBody hwritten, hsome, hkey, htarget⟩⟩

/-- A request is sent exactly if the call is sendable. -/
theorem exists_received_iff (now : Instant) (call : Call) :
    (∃ request, request ∈ (client.execute context vault now call).received) ↔
      Sendable client apiKey call := by
  simp only [mem_received_iff]
  constructor
  · rintro ⟨_, head, body, hprepare, hsign, -⟩
    exact
      { toPreparable := preparable_iff.mpr ⟨head, body, hprepare⟩
        bearer := (sign_eq_ok_iff_of_prepare hbase hscheme hauthority hfound hprepare).mp hsign }
  · intro h
    obtain ⟨head, body, hprepare⟩ := preparable_iff.mp h.toPreparable
    exact ⟨_, head, body, hprepare,
      (sign_eq_ok_iff_of_prepare hbase hscheme hauthority hfound hprepare).mpr h.bearer, rfl⟩

end

/-- Where nothing is sent, the request was refused. -/
theorem isRefusal_of_not_sent
    (hfound : (client.signer.credential context.environment vault).1 = .ok ⟨apiKey⟩)
    (h : (client.execute context vault now call).received = []) :
    ∃ e, (client.execute context vault now call).result = .error e ∧ IsRefusal e := by
  cases hprepare : client.prepare call with
  | error e =>
      rw [execute_of_unprepared hprepare]
      exact ⟨e, rfl, isRefusal_of_prepare hprepare⟩
  | ok prepared =>
      obtain ⟨head, body⟩ := prepared
      cases hsign : (client.signer.sign context.environment vault now head body).result with
      | ok _ =>
          rw [execute_of_signed hprepare hsign] at h
          cases h
      | error e =>
          rw [execute_of_unsigned hprepare hsign]
          refine ⟨e, rfl, ?_⟩
          rw [(Signer.sign_of_ok hfound now head body).1] at hsign
          exact isRefusal_of_sealHead hsign

/-- An error that no refusal, no answer and no timer gives is the transport's own. -/
theorem failure_of_kind {e : Error}
    (hfound : (client.signer.credential context.environment vault).1 = .ok ⟨apiKey⟩)
    (he : (client.execute context vault now call).result = .error e)
    (hkind : e.kind = .credentialInvalid ∨ e.kind = .configInvalid ∨ e.kind = .unexpected) :
    ∃ request, (client.execute context vault now call).received = [request] ∧
      context.transport.send request = .failure e := by
  cases hrecord : (client.execute context vault now call).received with
  | nil =>
      obtain ⟨e', he', hrefusal⟩ := isRefusal_of_not_sent hfound hrecord
      obtain rfl : e = e' := Except.error.inj (he.symm.trans he')
      simp [hrefusal.kind] at hkind
  | cons request rest =>
      have hmem : request ∈ (client.execute context vault now call).received :=
        hrecord ▸ List.mem_cons_self
      obtain ⟨hreceived, hresult⟩ := exchange_of_received hmem
      refine ⟨request, hrecord.symm.trans hreceived, ?_⟩
      rw [hresult] at he
      rcases error_of_conclude he with ⟨hfailure, -⟩ | ⟨-, _, _, hread⟩ | ⟨-, htransport⟩
      · exact hfailure
      · rcases (tells_of_readAnswer hread).2.2 with hapi | hinvalid
        · simp [hapi] at hkind
        · simp [hinvalid] at hkind
      · simp [htransport.kind] at hkind

/-- A call for which nothing can be prepared asks nobody for a credential. -/
theorem vault_of_not_preparable (h : ¬Preparable client call) :
    (client.execute context vault now call).vault = vault := by
  cases hprepare : client.prepare call with
  | error e => rw [execute_of_unprepared hprepare]
  | ok prepared => exact absurd (preparable_iff.mpr ⟨prepared.1, prepared.2, hprepare⟩) h

/-- A call depends on its transport only by the reply to the request that is sent. -/
theorem execute_congr {other : Context} (henv : other.environment = context.environment)
    (h : ∀ request ∈ (client.execute context vault now call).received,
      other.transport.send request = context.transport.send request) :
    client.execute other vault now call = client.execute context vault now call := by
  cases hprepare : client.prepare call with
  | error e => rw [execute_of_unprepared hprepare, execute_of_unprepared hprepare]
  | ok prepared =>
      obtain ⟨head, body⟩ := prepared
      cases hsign : (client.signer.sign context.environment vault now head body).result with
      | error e =>
          have hother := hsign
          rw [← henv] at hother
          rw [execute_of_unsigned hprepare hsign, execute_of_unsigned hprepare hother, henv]
      | ok _ =>
          have hother := hsign
          rw [← henv] at hother
          rw [execute_of_signed hprepare hsign] at h ⊢
          rw [execute_of_signed hprepare hother, henv]
          dsimp only at h ⊢
          rw [h _ (List.mem_singleton_self _)]

/-- A client that was made with a key sends one request for a call that is sendable, and the
call comes to what is concluded from the reply. For every other call it sends none and
refuses the request, and it does not look for its key if the request could not even be
prepared. Errors of other kinds come from the transport or from an answer.

This is so after any calls before, and what the transport had received until then stays on its
record. A call depends on its transport only by the reply to the request that is sent. -/
theorem execute_sends {config : Config} (hkey : config.apiKey = some apiKey)
    (hclient : ofConfig config = .ok client)
    (hvault : Vault.Reachable client.signer.provider vault) (context : Context) (now : Instant)
    (call : Call) :
    let done := client.execute context vault now call
    (Sendable client apiKey call → ∃ request, done.received = [request] ∧
      done.result = (client.conclude call (context.transport.send request)).1) ∧
    (¬Sendable client apiKey call → done.received = [] ∧
      ∃ e, done.result = .error e ∧ IsRefusal e) ∧
    (∀ e, done.result = .error e →
      e.kind = .credentialInvalid ∨ e.kind = .configInvalid ∨ e.kind = .unexpected →
      ∃ request, done.received = [request] ∧ context.transport.send request = .failure e) ∧
    (¬Preparable client call → done.vault = vault) ∧
    (∀ head body, client.prepare call = .ok (head, body) →
      ∃ draft, (Draft.start head).result = .ok draft ∧ ∀ headers left,
        (Draft.finish { draft with headers := headers } left).result = .ok ()) ∧
    (∀ transport : Transport, (∀ request ∈ done.received,
        transport.send request = context.transport.send request) →
      client.execute { context with transport := transport } vault now call = done) ∧
    ∀ before, (client.perform context vault now call).run before =
      ((done.result, done.vault, done.log), before ++ done.received) := by
  intro done
  obtain ⟨base, hbase, hscheme, hauthority⟩ := Made.exists_base (.inl hclient)
  obtain ⟨key, hkey', hne, hmade⟩ := ofConfig_eq_ok_iff.mp hclient
  obtain rfl : apiKey = key := Option.some.inj (hkey.symm.trans hkey')
  obtain ⟨-, rfl⟩ := withProvider_eq_ok_iff.mp hmade
  have hfound := Signer.credential_fixed hne hvault context.environment
  have hsent := exists_received_iff hbase hscheme hauthority hfound now call
  refine ⟨fun h => ?_, fun h => ?_, fun e => failure_of_kind hfound, vault_of_not_preparable,
    fun head body => draft_of_prepare hbase hscheme hauthority, fun transport h => ?_, run_perform⟩
  · obtain ⟨request, hmem⟩ := hsent.mpr h
    exact ⟨request, exchange_of_received hmem⟩
  · have hnone : done.received = [] :=
      List.eq_nil_iff_forall_not_mem.mpr fun request hmem => h (hsent.mp ⟨request, hmem⟩)
    exact ⟨hnone, isRefusal_of_not_sent hfound hnone⟩
  · exact execute_congr rfl h

/-- So a call with a body is sent, and one whose endpoint has no slash is refused. -/
theorem execute_sends_slash : ∃ client now request e,
    ofConfig { apiKey := some "key", baseUrl? := some "https://h/p" } = .ok client ∧
    (client.execute .empty {} now ⟨.post, "/a", some (.json .null)⟩).received = [request] ∧
    (client.execute .empty {} now ⟨.post, "a", some (.json .null)⟩).received = [] ∧
    (client.execute .empty {} now ⟨.post, "a", some (.json .null)⟩).result = .error e ∧
    e.kind = .requestInvalid := by
  let config : Config := { apiKey := some "key", baseUrl? := some "https://h/p" }
  let client : Client := ⟨config.baseUrl, config.timeout, ⟨.fixed "key"⟩⟩
  let now : Instant := ⟨0, 0, by decide, by decide, by decide⟩
  have hbase : Uri.ofText client.baseUrl =
      .ok ⟨some .https, some ⟨"h"⟩, ⟨"/p", none, by decide, rfl⟩⟩ := by
    cbv
  have hmade : ofConfig config = .ok client := ofConfig_of_base rfl (by decide) hbase rfl rfl
  have haddress : Uri.ofText (client.baseUrl ++ "/a") =
      .ok ⟨some .https, some ⟨"h"⟩, ⟨"/p/a", none, by decide, rfl⟩⟩ := by
    cbv
  have hbearer : HeaderValue.ofText ("Bearer " ++ "key") =
      .ok ⟨Utf8.ofString "Bearer key", false⟩ := by
    cbv
  have hsendable : Sendable client "key" ⟨.post, "/a", some (.json .null)⟩ :=
    { slash := rfl
      written := by
        rintro body ⟨⟩
        exact ⟨_, rfl⟩
      address := ⟨_, haddress⟩
      bearer := ⟨_, hbearer⟩ }
  have hnot : ¬Sendable client "key" ⟨.post, "a", some (.json .null)⟩ := fun h =>
    absurd h.slash (by decide)
  obtain ⟨request, hsent, -⟩ := (execute_sends rfl hmade .fresh .empty now _).1 hsendable
  obtain ⟨hnone, e, he, hrefusal⟩ := (execute_sends rfl hmade .fresh .empty now _).2.1 hnot
  exact ⟨client, now, request, e, hmade, hsent, hnone, he, hrefusal.kind⟩

end Client

end SignedPayments
