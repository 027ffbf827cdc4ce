import SignedPayments.Proofs.Client.Destination

/-!
# SignedPayments.Proofs.Client.Addressed

Which payment a client asks for. The identifier is put after the endpoint of payments as it is,
and both are read as a part of a uri. So the marks of uris count in an identifier, too: a
question mark begins a query, and what a number sign begins is dropped.

A request asks for the payment of its identifier exactly if there is no mark in it, and
identifiers that are parted alike are asked for in one and the same way
(`Client.sent_getPayment`).
-/

namespace SignedPayments

open Http Signing

namespace Http.Target

/-- The path that is read of a text, and its query, if it is not empty. -/
def parted (text : String) : String × Option String :=
  let kept := text.toList.takeWhile (· ≠ '#')
  (String.ofList (kept.takeWhile (· ≠ '?')),
    ((some (kept.dropWhile (· ≠ '?')).tail).filter (· ≠ [])).map String.ofList)

section

variable {text front more : String} {path rest : List Char} {query : Option (List Char)}

theorem parted_of_splits (h : Splits text.toList path query rest) :
    parted text = (String.ofList path, (query.filter (· ≠ [])).map String.ofList) := by
  unfold parted
  dsimp only
  rw [h.kept_eq, h.path_eq.1, h.path_eq.2]
  cases query <;> rfl

/-- A text is its own path exactly if there is no mark in it. -/
theorem parted_eq_iff : (parted text).1 = text ↔ '#' ∉ text.toList ∧ '?' ∉ text.toList := by
  obtain ⟨path, query, rest, hsplits⟩ := exists_splits text.toList
  rw [parted_of_splits hsplits]
  constructor
  · intro heq
    rw [← heq, String.toList_ofList]
    exact ⟨fun hmem => (hsplits.path_chars _ hmem).1 rfl,
      fun hmem => (hsplits.path_chars _ hmem).2 rfl⟩
  · intro hnone
    obtain ⟨rfl, rfl⟩ := hsplits.no_marks_iff.mp hnone
    rw [← String.toList_inj, String.toList_ofList, hsplits.eq]
    simp [queryChars]

theorem query_parted (hnumber : '#' ∉ text.toList) (hquestion : '?' ∉ text.toList) :
    (parted text).2 = none := by
  obtain ⟨path, query, rest, hsplits⟩ := exists_splits text.toList
  obtain ⟨rfl, -⟩ := hsplits.no_marks_iff.mp ⟨hnumber, hquestion⟩
  rw [parted_of_splits hsplits]
  rfl

/-- What stands before, and has no mark, belongs to the path. -/
theorem parted_append (hnumber : '#' ∉ front.toList) (hquestion : '?' ∉ front.toList) :
    parted (front ++ more) = (front ++ (parted more).1, (parted more).2) := by
  obtain ⟨path, query, rest, hsplits⟩ := exists_splits front.toList
  obtain ⟨path', query', rest', hmore⟩ := exists_splits more.toList
  obtain ⟨rfl, rfl⟩ := hsplits.no_marks_iff.mp ⟨hnumber, hquestion⟩
  have hfront := parted_eq_iff.mpr ⟨hnumber, hquestion⟩
  rw [parted_of_splits hsplits] at hfront
  dsimp only at hfront
  have happend := hsplits.append_path hmore
  rw [← String.toList_append] at happend
  rw [parted_of_splits happend, parted_of_splits hmore, String.ofList_append, hfront]

/-- The query that is sent of a target that was read. -/
theorem sentQuery_of_splits {cs : List Char} {t : Target} (h : Splits cs path query rest)
    (ht : ofChars cs = .ok t) : t.sentQuery = (query.filter (· ≠ [])).map String.ofList := by
  rw [ofChars_of_splits h] at ht
  rw [sentQuery, (ofParts_inv ht).2]
  cases query with
  | none => rfl
  | some q => by_cases hnil : q = [] <;> simp [Option.filter, hnil]

end

end Http.Target

namespace Client

variable {client : Client} {now : Instant} {call : Call} {c : Credential} {uri base : Uri}
  {authority : Authority} {body : Option Bytes} {raw : Option Json.Raw} {target : Target}
  {request : Request}

/-- Where the address has no mark, the endpoint is parted by itself. -/
theorem Sends.target_parted (h : Sends client now call c uri authority body raw target request)
    (hbase : Uri.ofText client.baseUrl = .ok base) (hscheme : base.scheme.isSome)
    (hnumber : '#' ∉ client.baseUrl.toList) (hquestion : '?' ∉ client.baseUrl.toList) :
    request.head.uri.target.written = base.target.written ++ (Target.parted call.endpoint).1 ∧
      request.head.uri.target.query = (Target.parted call.endpoint).2 := by
  obtain ⟨hscheme', -⟩ := Uri.origin_of_append hbase hscheme h.slash h.uri_eq
  obtain ⟨front, rest, hfront, -, htarget, htarget'⟩ :=
    Uri.target_of_append hbase hscheme h.slash h.uri_eq
  -- The path of the address is all that stands after its authority.
  have hnone : '#' ∉ rest ∧ '?' ∉ rest := by
    rw [hfront] at hnumber hquestion
    exact ⟨fun hmem => hnumber (List.mem_append_right _ hmem),
      fun hmem => hquestion (List.mem_append_right _ hmem)⟩
  obtain ⟨path, query, dropped, hsplits⟩ := Target.exists_splits rest
  obtain ⟨rfl, rfl⟩ := hsplits.no_marks_iff.mp hnone
  obtain ⟨path', query', rest', hmore⟩ := Target.exists_splits call.endpoint.toList
  have happend := hsplits.append_path hmore
  have hne : path ++ path' ≠ [] := by
    have hslash := hmore.path_head h.slash
    intro hnil
    rw [(List.append_eq_nil_iff.mp hnil).2] at hslash
    cases hslash
  obtain ⟨hwritten, -⟩ := Target.chars_of_splits hsplits htarget
  obtain ⟨htold, hasked⟩ := Target.ofText_sent_inv h.target_eq
  rw [shownTarget_unsigned call (by rw [hscheme', hscheme])] at htold hasked
  rw [h.request_eq, Target.parted_of_splits hmore]
  constructor
  · show target.written = _
    rw [htold, ← String.toList_inj, Target.path_of_splits happend htarget', if_neg hne,
      String.toList_append, hwritten, String.toList_ofList]
  · show target.query = _
    rw [hasked, Target.sentQuery_of_splits happend htarget']

/-- The identifier is parted by itself, too. -/
theorem parted_getPayment (id : String) :
    Target.parted (Call.getPayment id).endpoint =
      (Call.paymentsEndpoint ++ "/" ++ (Target.parted id).1, (Target.parted id).2) :=
  Target.parted_append (by decide +kernel) (by decide +kernel)

/-- The uri that asks for a payment, below an address. -/
structure Asks (base : Uri) (id : String) (uri : Uri) : Prop where
  scheme : uri.scheme = base.scheme
  authority : uri.authority = base.authority
  written : uri.target.written =
    base.target.written ++ (Call.paymentsEndpoint ++ "/" ++ (Target.parted id).1)
  query : uri.target.query = (Target.parted id).2

variable {id id' : String} {uri' : Uri}

theorem Asks.path (h : Asks base id uri) (hscheme : base.scheme.isSome) :
    uri.path = base.target.written ++ (Call.paymentsEndpoint ++ "/" ++ (Target.parted id).1) := by
  have hshown : uri.hasPath = true := by
    rw [Uri.hasPath, h.scheme, hscheme, Bool.or_true]
  have hne : uri.target.written ≠ "" := by
    rw [h.written]
    intro hempty
    have hlength := congrArg String.length hempty
    simp [Call.paymentsEndpoint] at hlength
  rw [Uri.path, if_pos hshown, Target.path, if_neg hne, h.written]

/-- The path ends with the identifier, and there is no query, if there is no mark in it. -/
theorem Asks.whole_iff (h : Asks base id uri) (hscheme : base.scheme.isSome) :
    (uri.query = none ∧
        uri.path = base.target.written ++ (Call.paymentsEndpoint ++ "/" ++ id)) ↔
      '#' ∉ id.toList ∧ '?' ∉ id.toList := by
  rw [h.path hscheme, String.append_right_inj, String.append_right_inj, Target.parted_eq_iff]
  constructor
  · exact And.right
  · intro hnone
    exact ⟨h.query.trans (Target.query_parted hnone.1 hnone.2), hnone⟩

theorem Asks.eq_iff (h : Asks base id uri) (h' : Asks base id' uri') :
    uri' = uri ↔ Target.parted id' = Target.parted id := by
  constructor
  · intro heq
    have hpath := h'.written
    have hquery := h'.query
    rw [heq, h.written, String.append_right_inj, String.append_right_inj] at hpath
    rw [heq, h.query] at hquery
    exact Prod.ext hpath.symm hquery.symm
  · intro hparted
    have hscheme := h'.scheme.trans h.scheme.symm
    have hauthority := h'.authority.trans h.authority.symm
    have hwritten : uri'.target.written = uri.target.written := by
      rw [h'.written, h.written, hparted]
    have hquery : uri'.target.query = uri.target.query := by
      rw [h'.query, h.query, hparted]
    obtain ⟨scheme, authority, ⟨written, query, _, _⟩⟩ := uri
    obtain ⟨scheme', authority', ⟨written', query', _, _⟩⟩ := uri'
    obtain rfl : scheme' = scheme := hscheme
    obtain rfl : authority' = authority := hauthority
    obtain rfl : written' = written := hwritten
    obtain rfl : query' = query := hquery
    rfl

theorem Sends.asks (h : Sends client now (.getPayment id) c uri authority body raw target request)
    (hbase : Uri.ofText client.baseUrl = .ok base) (hscheme : base.scheme.isSome)
    (hnumber : '#' ∉ client.baseUrl.toList) (hquestion : '?' ∉ client.baseUrl.toList) :
    Asks base id request.head.uri := by
  obtain ⟨hscheme', hauthority'⟩ := h.origin hbase hscheme
  obtain ⟨hwritten, hquery⟩ := h.target_parted hbase hscheme hnumber hquestion
  rw [parted_getPayment] at hwritten hquery
  exact ⟨hscheme', hauthority', hwritten, hquery⟩

/-- A request for a payment has no query, and its path is that of the address, the endpoint and
the identifier, exactly if there is no mark in the identifier. Otherwise they are the parts that
are read of it, so that two requests have the same uri exactly if the parts are the same. -/
theorem sent_getPayment {config : Config} {context : Context} {vault : Vault}
    (hmade : Made config client) (hnumber : '#' ∉ client.baseUrl.toList)
    (hquestion : '?' ∉ client.baseUrl.toList)
    (hreceived : request ∈ (client.execute context vault now (.getPayment id)).received) :
    ∃ base, Uri.ofText client.baseUrl = .ok base ∧ Asks base id request.head.uri ∧
      ((request.head.uri.query = none ∧ request.head.uri.path =
          base.target.written ++ (Call.paymentsEndpoint ++ "/" ++ id)) ↔
        '#' ∉ id.toList ∧ '?' ∉ id.toList) ∧
      ∀ context' vault' now' id' request',
        request' ∈ (client.execute context' vault' now' (.getPayment id')).received →
          (request'.head.uri = request.head.uri ↔ Target.parted id' = Target.parted id) := by
  obtain ⟨base, hbase, hscheme, -⟩ := hmade.exists_base
  have hasks : ∀ {context vault now id request},
      request ∈ (client.execute context vault now (.getPayment id)).received →
        Asks base id request.head.uri := by
    intro context vault now id request hreceived
    obtain ⟨c, uri, authority, body, raw, target, -, hsends⟩ := sends_of_received hreceived
    exact hsends.asks hbase hscheme hnumber hquestion
  refine ⟨base, hbase, hasks hreceived, (hasks hreceived).whole_iff hscheme, ?_⟩
  intro context' vault' now' id' request' hreceived'
  exact (hasks hreceived).eq_iff (hasks hreceived')

/-- So the uris for `pay_1#2` and for `pay_1` are the same. -/
theorem sent_getPayment_number_sign :
    ∃ client now request request',
      ofConfig { apiKey := some "key", baseUrl? := some "https://h" } = .ok client ∧
      request ∈ (client.execute .empty {} now (.getPayment "pay_1")).received ∧
      request' ∈ (client.execute .empty {} now (.getPayment "pay_1#2")).received ∧
      request'.head.uri = request.head.uri := by
  let config : Config := { apiKey := some "key", baseUrl? := some "https://h" }
  let client : Client := ⟨config.baseUrl, config.timeout, ⟨.fixed "key"⟩⟩
  let now : Instant := ⟨0, 0, by decide, by decide, by decide⟩
  have hbase : Uri.ofText client.baseUrl = .ok ⟨some .https, some ⟨"h"⟩, .empty⟩ := by
    cbv
  have hmade : ofConfig config = .ok client := ofConfig_of_base rfl (by decide) hbase rfl rfl
  have hsome : (client.execute .empty {} now (.getPayment "pay_1")).sent.isSome = true := by
    decide +kernel
  have hsome' : (client.execute .empty {} now (.getPayment "pay_1#2")).sent.isSome = true := by
    decide +kernel
  obtain ⟨request, hreceived⟩ := exists_received hsome
  obtain ⟨request', hreceived'⟩ := exists_received hsome'
  obtain ⟨base, -, -, -, hiff⟩ := sent_getPayment (.inl hmade) (by decide) (by decide) hreceived
  exact ⟨client, now, request, request', hmade, hreceived, hreceived',
    (hiff .empty {} now "pay_1#2" request' hreceived').mpr (by decide +kernel)⟩

end Client

end SignedPayments
