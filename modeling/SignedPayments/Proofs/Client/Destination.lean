import SignedPayments.Proofs.Client.Sent
import SignedPayments.Proofs.Http.Appended

/-!
# SignedPayments.Proofs.Client.Destination

Where requests go. The uri of a request is read from the address of the client and the
endpoint, put one after the other, then taken apart, put together and read again.

* The address is an absolute uri and the endpoint begins with a slash. So no endpoint
  changes scheme or authority (`Client.sent_origin`).
* The path and the query are read from both texts as one. They are the path of the
  address and then the endpoint, as it was signed, under an exact condition only
  (`Client.sent_target_iff`).
-/

namespace SignedPayments

open Http Signing

namespace Client

/-- The clients that can be made of a configuration, with its key or with a provider. -/
def Made (config : Config) (client : Client) : Prop :=
  ofConfig config = .ok client ∨ ∃ provider, withProvider config provider = .ok client

/-- The address of a client is an absolute uri. -/
theorem Made.exists_base {config : Config} {client : Client} (h : Made config client) :
    ∃ base, Uri.ofText client.baseUrl = .ok base ∧ base.scheme.isSome ∧ base.authority.isSome := by
  have hmade : ∃ provider, withProvider config provider = .ok client := by
    rcases h with h | h
    · obtain ⟨apiKey, -, -, hmade⟩ := ofConfig_eq_ok_iff.mp h
      exact ⟨_, hmade⟩
    · exact h
  obtain ⟨provider, hmade⟩ := hmade
  obtain ⟨hbase, rfl⟩ := withProvider_eq_ok_iff.mp hmade
  exact hbase

variable {client : Client} {now : Instant} {call : Call} {c : Credential} {uri base : Uri}
  {authority : Authority} {body : Option Bytes} {raw : Option Json.Raw} {target : Target}
  {request : Request}

/-! ### Scheme and authority -/

/-- The uri of address and endpoint has scheme and authority of the address. -/
theorem Sends.origin (h : Sends client now call c uri authority body raw target request)
    (hbase : Uri.ofText client.baseUrl = .ok base) (hscheme : base.scheme.isSome) :
    request.head.uri.scheme = base.scheme ∧ request.head.uri.authority = base.authority := by
  obtain ⟨hscheme', hauthority'⟩ := Uri.origin_of_append hbase hscheme h.slash h.uri_eq
  obtain ⟨scheme, hsome⟩ := Option.isSome_iff_exists.mp hscheme
  rw [h.request_eq, ← hauthority', h.authority_eq, hsome]
  refine ⟨?_, rfl⟩
  show some (uri.scheme.getD .http) = some scheme
  rw [hscheme', hsome, Option.getD_some]

/-- Whatever is sent goes to the scheme and the authority of the address that the client
was made with, for every endpoint. -/
theorem sent_origin {config : Config} {context : Context} {vault : Vault}
    (hmade : Made config client)
    (hreceived : request ∈ (client.execute context vault now call).received) :
    ∃ base, Uri.ofText client.baseUrl = .ok base ∧ base.scheme.isSome ∧ base.authority.isSome ∧
      request.head.uri.scheme = base.scheme ∧ request.head.uri.authority = base.authority := by
  obtain ⟨base, hbase, hscheme, hauthority⟩ := hmade.exists_base
  obtain ⟨c, uri, authority, body, raw, target, -, hsends⟩ := sends_of_received hreceived
  exact ⟨base, hbase, hscheme, hauthority, hsends.origin hbase hscheme⟩

/-- So with an endpoint that looks like another authority. -/
theorem sent_origin_of_address :
    ∃ client now request,
      ofConfig { apiKey := some "key", baseUrl? := some "https://me@h:8443" } = .ok client ∧
      request ∈ (client.execute .empty {} now ⟨.get, "//you@host:1/a", none⟩).received ∧
      request.head.uri.scheme = some .https ∧
      request.head.uri.authority = some ⟨"me@h:8443"⟩ := by
  let config : Config := { apiKey := some "key", baseUrl? := some "https://me@h:8443" }
  let client : Client := ⟨config.baseUrl, config.timeout, ⟨.fixed "key"⟩⟩
  let now : Instant := ⟨0, 0, by decide, by decide, by decide⟩
  have hbase : Uri.ofText client.baseUrl = .ok ⟨some .https, some ⟨"me@h:8443"⟩, .empty⟩ := by
    cbv
  have hmade : ofConfig config = .ok client := ofConfig_of_base rfl (by decide) hbase rfl rfl
  have hsome : (client.execute .empty {} now
      ⟨.get, "//you@host:1/a", none⟩).sent.isSome = true := by
    decide +kernel
  obtain ⟨request, hreceived⟩ := exists_received hsome
  obtain ⟨base, hbase', -, -, hscheme, hauthority⟩ := sent_origin (.inl hmade) hreceived
  obtain rfl := Except.ok.inj (hbase.symm.trans hbase')
  exact ⟨client, now, request, hmade, hreceived, hscheme, hauthority⟩

/-! ### Path and query -/

theorem shownTarget_unsigned (call : Call) (hscheme : uri.scheme.isSome) :
    shownTarget (unsigned call uri) = uri.target :=
  shownTarget_of_scheme hscheme

/-- What a server sees is the target that was read first, but for an empty query. -/
theorem Sends.text_target (h : Sends client now call c uri authority body raw target request)
    (hscheme : uri.scheme.isSome) : request.head.uri.target.text = uri.target.sent := by
  rw [h.request_eq]
  show target.text = uri.target.sent
  rw [← shownTarget_unsigned call hscheme]
  exact Target.text_of_ofText_sent h.target_eq

/-- The path is the one that was read first. -/
theorem Sends.path_target (h : Sends client now call c uri authority body raw target request)
    (hscheme : uri.scheme.isSome) : request.head.uri.target.path = uri.target.path := by
  rw [h.request_eq]
  show target.path = uri.target.path
  rw [← shownTarget_unsigned call hscheme]
  exact Target.path_of_ofText_sent h.target_eq

/-- The url that is signed is the endpoint, as it was given. -/
theorem Sends.signed (h : Sends client now call c uri authority body raw target request) :
    request.head.headers.values .signature =
      [⟨Utf8.ofString (signature c.apiKey
        (payload request.head.method call.endpoint raw (Timestamp.format now))), false⟩] := by
  rw [h.request_eq]
  exact values_sealedHeaders_signature

/-- When the endpoint is seen as it was signed, after the path of the address. -/
theorem Sends.target_iff (h : Sends client now call c uri authority body raw target request)
    (hbase : Uri.ofText client.baseUrl = .ok base) (hscheme : base.scheme.isSome) :
    request.head.uri.target.text = base.target.written ++ call.endpoint ↔
      ('#' ∉ client.baseUrl.toList ∧ '?' ∉ client.baseUrl.toList ∧
        Target.Whole call.endpoint.toList) ∨
      ('#' ∈ client.baseUrl.toList ∧ base.target.written = "" ∧
        base.target.sent = call.endpoint) := by
  obtain ⟨hscheme', -⟩ := Uri.origin_of_append hbase hscheme h.slash h.uri_eq
  obtain ⟨front, rest, hfront, hmarks, htarget, htarget'⟩ :=
    Uri.target_of_append hbase hscheme h.slash h.uri_eq
  -- Marks of the address can only stand after its authority.
  have hmem : ∀ c, (∀ d ∈ front, d ≠ c) → (c ∈ client.baseUrl.toList ↔ c ∈ rest) := by
    intro c hc
    rw [hfront, List.mem_append]
    exact ⟨fun h => h.resolve_left fun h => hc c h rfl, .inr⟩
  rw [hmem '#' fun d hd => (hmarks d hd).1, hmem '?' fun d hd => (hmarks d hd).2,
    h.text_target (by rw [hscheme', hscheme]), ← String.toList_inj, String.toList_append,
    Target.sent_append_iff h.slash htarget htarget', ← String.toList_inj, ← String.toList_inj]
  rfl

/-- What is sent is signed for the endpoint as it was given. The path and the query that a
server sees are the path of the address and then this endpoint, exactly if the address has
neither query nor fragment and the endpoint neither a fragment nor an empty query. Where
the address has a fragment, which swallows the endpoint, they may be so by chance. -/
theorem sent_target_iff {config : Config} {context : Context} {vault : Vault}
    (hmade : Made config client)
    (hreceived : request ∈ (client.execute context vault now call).received) :
    (∃ apiKey body, request.head.headers.values .signature =
      [⟨Utf8.ofString (signature apiKey
        (payload request.head.method call.endpoint body (Timestamp.format now))), false⟩]) ∧
    ∃ base, Uri.ofText client.baseUrl = .ok base ∧
      (request.head.uri.target.text = base.target.written ++ call.endpoint ↔
        ('#' ∉ client.baseUrl.toList ∧ '?' ∉ client.baseUrl.toList ∧
          Target.Whole call.endpoint.toList) ∨
        ('#' ∈ client.baseUrl.toList ∧ base.target.written = "" ∧
          base.target.sent = call.endpoint)) := by
  obtain ⟨base, hbase, hscheme, -⟩ := hmade.exists_base
  obtain ⟨c, uri, authority, body, raw, target, -, hsends⟩ := sends_of_received hreceived
  exact ⟨⟨c.apiKey, raw, hsends.signed⟩, base, hbase, hsends.target_iff hbase hscheme⟩

/-- So an endpoint with an empty query is not seen as it was signed. -/
theorem sent_target_empty_query :
    ∃ client now request,
      ofConfig { apiKey := some "key", baseUrl? := some "https://h/p" } = .ok client ∧
      request ∈ (client.execute .empty {} now ⟨.get, "/a?", none⟩).received ∧
      request.head.uri.target.text ≠ "/p/a?" := by
  let config : Config := { apiKey := some "key", baseUrl? := some "https://h/p" }
  let client : Client := ⟨config.baseUrl, config.timeout, ⟨.fixed "key"⟩⟩
  let now : Instant := ⟨0, 0, by decide, by decide, by decide⟩
  have hbase : Uri.ofText client.baseUrl =
      .ok ⟨some .https, some ⟨"h"⟩, ⟨"/p", none, by decide, rfl⟩⟩ := by
    cbv
  have hmade : ofConfig config = .ok client := ofConfig_of_base rfl (by decide) hbase rfl rfl
  have hsome : (client.execute .empty {} now ⟨.get, "/a?", none⟩).sent.isSome = true := by
    decide +kernel
  obtain ⟨request, hreceived⟩ := exists_received hsome
  refine ⟨client, now, request, hmade, hreceived, fun htext => ?_⟩
  obtain ⟨-, base, hbase', hiff⟩ := sent_target_iff (.inl hmade) hreceived
  obtain rfl := Except.ok.inj (hbase.symm.trans hbase')
  rcases hiff.mp htext with ⟨-, -, -, hend⟩ | ⟨hnumber, -, -⟩
  · exact absurd (hend ['/', 'a'] rfl) (by decide)
  · exact absurd hnumber (by decide)

end Client

end SignedPayments
