import SignedPayments.Delivery
import SignedPayments.Proofs.Client.Destination
import SignedPayments.Proofs.Http.Reread
import SignedPayments.Proofs.Url.Basic

/-!
# SignedPayments.Proofs.Client.Delivery

What becomes of a request that is delivered. Method, headers and body stay as they are, and
so do path and query, but only if a url keeps them (`Client.delivered_iff`): the path and
the query that are delivered can differ from those that the signature stands for.
-/

namespace SignedPayments

open Http Signing

namespace Delivery

/-- A delivery has all that its request has, with the uri read as a url. -/
theorem ofRequest_inv {request : Request} {d : Delivery} (h : ofRequest request = .ok d) :
    Url.ofUri request.head.uri = .ok d.url ∧
      d.method = request.head.method ∧ d.headers = request.head.headers ∧ d.body = request.body := by
  unfold ofRequest at h
  split at h
  · cases h
  · next url hurl =>
    cases h
    exact ⟨hurl, rfl, rfl, rfl⟩

end Delivery

namespace Client

variable {client : Client} {now : Instant} {call : Call} {c : Credential} {uri base : Uri}
  {authority : Authority} {body : Option Bytes} {raw : Option Json.Raw} {target : Target}
  {request : Request}

/-- The uri of a request has an authority without slashes, and a path. -/
theorem Sends.isRequestUri (h : Sends client now call c uri authority body raw target request)
    (hbase : Uri.ofText client.baseUrl = .ok base) (hs : base.scheme.isSome)
    (hscheme : request.head.uri.scheme = some .http ∨ request.head.uri.scheme = some .https) :
    ∃ path, Url.IsRequestUri request.head.uri path := by
  obtain ⟨hsame, -⟩ := Uri.origin_of_append hbase hs h.slash h.uri_eq
  have hs' : uri.scheme.isSome := by rw [hsame, hs]
  obtain ⟨name, front, rest, scheme, habsolute, hfront, -⟩ := Uri.exists_absolute h.uri_eq hs'
  have hauthority : authority = ⟨String.ofList front⟩ :=
    Option.some.inj (h.authority_eq.symm.trans hfront)
  have hchars : ∀ c ∈ authority.text.toList, Url.isSlash true c = false ∧ c ≠ '?' := by
    rw [hauthority, String.toList_ofList]
    intro c hc
    have hend := habsolute.authority_chars c hc
    have hback := habsolute.authority_accepted.ne_backslash c hc
    simp only [Authority.isEnd, Bool.or_eq_false_iff, decide_eq_false_iff_not] at hend
    exact ⟨by simp [Url.isSlash, hend.1.1, hback], hend.1.2⟩
  obtain ⟨path, hslash⟩ := List.head?_eq_some_iff.mp (Uri.head?_path h.uri_eq hs')
  refine ⟨path, hscheme, ⟨authority, ?_, ?_, hchars⟩, by rw [h.path_target hs', hslash]⟩
  · rw [h.request_eq]
    rfl
  · rw [hauthority]
    simpa using habsolute.authority_ne_nil

/-- What is delivered of a request of `http` or `https`, if it is delivered, has the method,
the headers and the body of the request. It has the path and the query of the request
exactly if a url keeps them: if all of their characters are kept, and no segment of the path
stands for dots. -/
theorem delivered_iff {config : Config} {context : Context} {vault : Vault} {d : Delivery}
    (hmade : Made config client)
    (hreceived : request ∈ (client.execute context vault now call).received)
    (hscheme : request.head.uri.scheme = some .http ∨ request.head.uri.scheme = some .https)
    (hd : Delivery.ofRequest request = .ok d) :
    (d.method = request.head.method ∧ d.headers = request.head.headers ∧ d.body = request.body) ∧
    (d.url.target = request.head.uri.target.text.toList ↔
      Url.KeepsPath request.head.uri.target.path.toList ∧
        ∀ query ∈ request.head.uri.target.query, ∀ c ∈ query.toList,
          Url.IsPlain Url.webQuerySpecial c) := by
  obtain ⟨base, hbase, hs, -⟩ := hmade.exists_base
  obtain ⟨c, uri, authority, body, raw, target, -, hsends⟩ := sends_of_received hreceived
  obtain ⟨path, hrequest⟩ := hsends.isRequestUri hbase hs hscheme
  obtain ⟨hurl, hparts⟩ := Delivery.ofRequest_inv hd
  exact ⟨hparts, Url.target_eq_iff hrequest hurl⟩

/-- So an endpoint with dots is not delivered as it was signed. -/
theorem delivered_dots :
    ∃ client now request d,
      ofConfig { apiKey := some "key", baseUrl? := some "https://h" } = .ok client ∧
      request ∈ (client.execute .empty {} now ⟨.get, "/a/../b", none⟩).received ∧
      Delivery.ofRequest request = .ok d ∧ d.url.target ≠ request.head.uri.target.text.toList := by
  let config : Config := { apiKey := some "key", baseUrl? := some "https://h" }
  let client : Client := ⟨config.baseUrl, config.timeout, ⟨.fixed "key"⟩⟩
  let now : Instant := ⟨0, 0, by decide, by decide, by decide⟩
  have hbase : Uri.ofText client.baseUrl = .ok ⟨some .https, some ⟨"h"⟩, .empty⟩ := by cbv
  have hmade : ofConfig config = .ok client := ofConfig_of_base rfl (by decide) hbase rfl rfl
  have hsome : ((client.execute .empty {} now ⟨.get, "/a/../b", none⟩).sent.bind fun request =>
      (Delivery.ofRequest request).toOption.map fun _ =>
        (request.head.uri.scheme, request.head.uri.target.path)) =
      some (some .https, "/a/../b") := by
    decide +kernel
  obtain ⟨request, hsent, hsome⟩ := Option.bind_eq_some_iff.mp hsome
  obtain ⟨d, hd, hparts⟩ := Option.map_eq_some_iff.mp hsome
  obtain ⟨hscheme, hpath⟩ := Prod.mk.inj hparts
  have hd : Delivery.ofRequest request = .ok d := by
    cases hresult : Delivery.ofRequest request with
    | error e => simp [hresult, Except.toOption] at hd
    | ok d' => simpa [hresult, Except.toOption] using hd
  have hreceived := List.mem_of_head? hsent
  refine ⟨client, now, request, d, hmade, hreceived, hd, fun htarget => ?_⟩
  obtain ⟨hkeeps, -⟩ := (delivered_iff (.inl hmade) hreceived (.inr hscheme) hd).2.mp htarget
  rw [hpath] at hkeeps
  exact absurd (hkeeps.no_dots ['.', '.'] (by decide)) (by decide)

end Client

end SignedPayments
