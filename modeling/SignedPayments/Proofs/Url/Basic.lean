import SignedPayments.Proofs.Http.Uri
import SignedPayments.Proofs.Url.Path
import SignedPayments.Url.Basic

/-!
# SignedPayments.Proofs.Url.Basic

Uris of `http` and `https` that are read as urls. The path and the query of the url are
those of the uri, resolved and encoded (`Url.ofUri_inv`), and the same exactly if they are
kept (`Url.target_eq_iff`).
-/

namespace SignedPayments

open Http

namespace Url

open Target (queryChars)

/-! ### Queries -/

section

variable {front front' : List Char} {query query' : Option (List Char)}

theorem splitQuery_append (h : '?' ∉ front) : splitQuery (front ++ queryChars query) = (front, query) := by
  have hfront : ∀ c ∈ front, decide (c ≠ '?') = true := by
    intro c hc
    simpa using ne_of_mem_of_not_mem hc h
  have hquery : ∀ c ∈ (queryChars query).head?, decide (c ≠ '?') = false := by
    intro c hc
    simpa using Target.head?_queryChars query c hc
  unfold splitQuery
  rw [takeWhile_append_stop hfront hquery, dropWhile_append_stop hfront hquery]
  cases query with
  | none => simp [queryChars]
  | some query => rfl

/-- A path and a query can be told from their text. -/
theorem append_queryChars_inj (h : '?' ∉ front) (h' : '?' ∉ front') :
    front ++ queryChars query = front' ++ queryChars query' ↔ front = front' ∧ query = query' := by
  constructor
  · intro heq
    have hsplit := congrArg splitQuery heq
    rw [splitQuery_append h, splitQuery_append h'] at hsplit
    exact Prod.mk.inj hsplit
  · rintro ⟨rfl, rfl⟩
    rfl

end

/-! ### Reading -/

section

variable {scheme authority path : List Char} {query : Option (List Char)} {url : Url}

/-- What follows the scheme of the web: an authority, a path and a query. -/
theorem ofRest_web (hweb : isWeb scheme = true) (hfile : scheme ≠ fileScheme)
    (hne : authority ≠ []) (hauthority : ∀ c ∈ authority, isSlash true c = false ∧ c ≠ '?')
    (hpath : '?' ∉ path) :
    ofRest scheme ('/' :: '/' :: (authority ++ '/' :: path) ++ queryChars query) =
      (readAuthority scheme authority).map fun host =>
        { scheme := scheme, authority := some host, path := resolvePath true path
          query := query.map (percentEncode webQuerySpecial) } := by
  have hnone : '?' ∉ authority := fun h => (hauthority '?' h).2 rfl
  have hmark : '?' ∉ '/' :: '/' :: (authority ++ '/' :: path) := by simp [hnone, hpath]
  have hslashes : ('/' :: '/' :: (authority ++ '/' :: path)).dropWhile (isSlash true) =
      authority ++ '/' :: path := by
    obtain ⟨c, rest, rfl⟩ := List.exists_cons_of_ne_nil hne
    have hstop : ∀ d ∈ (c :: rest ++ '/' :: path).head?, isSlash true d = false := by
      simpa using (hauthority c List.mem_cons_self).1
    have hslash : ∀ d ∈ ['/', '/'], isSlash true d = true := by simp [isSlash]
    exact dropWhile_append_stop hslash hstop
  have hpass : ∀ c ∈ authority, (!isSlash true c) = true := by
    intro c hc
    simp [(hauthority c hc).1]
  have hstop : ∀ c ∈ ('/' :: path).head?, (!isSlash true c) = false := by simp [isSlash]
  unfold ofRest
  simp only [splitQuery_append hmark, hweb, hfile, if_true, if_false, Bool.true_or, hslashes,
    takeWhile_append_stop hpass hstop, dropWhile_append_stop hpass hstop]
  cases readAuthority scheme authority <;> rfl

end

/-- The uris of requests: one of two schemes, an authority without slashes, and a path. -/
structure IsRequestUri (uri : Uri) (path : List Char) : Prop where
  scheme : uri.scheme = some .http ∨ uri.scheme = some .https
  authority : ∃ authority, uri.authority = some authority ∧ authority.text ≠ "" ∧
    ∀ c ∈ authority.text.toList, isSlash true c = false ∧ c ≠ '?'
  path : uri.target.path.toList = '/' :: path

section

variable {uri : Uri} {path : List Char} {url : Url}

theorem IsRequestUri.no_mark (h : IsRequestUri uri path) : '?' ∉ '/' :: path := by
  rw [← h.path]
  intro hmem
  exact absurd (uri.target.path_chars '?' hmem) (by decide)

/-- The scheme of a request is one of the web, and is told from what follows it. -/
theorem IsRequestUri.exists_scheme (h : IsRequestUri uri path) :
    ∃ scheme, uri.scheme = some scheme ∧ isWeb scheme.name.toList = true ∧
      scheme.name.toList ≠ fileScheme ∧
      ∀ rest, splitScheme (scheme.name.toList ++ ':' :: rest) = .ok (scheme.name.toList, rest) := by
  rcases h.scheme with h | h
  · exact ⟨.http, h, by decide, by decide, fun rest => rfl⟩
  · exact ⟨.https, h, by decide, by decide, fun rest => rfl⟩

/-- What the uri of a request is read as, if it is read: a url with its path resolved and
its query encoded. -/
theorem ofUri_inv (h : IsRequestUri uri path) (hurl : ofUri uri = .ok url) :
    url.path = resolvePath true path ∧
      url.query = (uri.target.query.map String.toList).map (percentEncode webQuerySpecial) := by
  obtain ⟨scheme, hscheme, hweb, hfile, hsplit⟩ := h.exists_scheme
  obtain ⟨authority, hsome, hne, hauthority⟩ := h.authority
  have hmark : '?' ∉ path := fun hmem => h.no_mark (List.mem_cons_of_mem '/' hmem)
  have htext : uri.text.toList = scheme.name.toList ++ ':' :: ('/' :: '/' ::
      (authority.text.toList ++ '/' :: path) ++
        queryChars (uri.target.query.map String.toList)) := by
    have hshown : uri.path = uri.target.path := by simp [Uri.path, Uri.hasPath, hscheme]
    unfold Uri.text Uri.query
    rw [hscheme, hsome, hshown]
    cases uri.target.query with
    | none => simp [h.path, queryChars]
    | some query => simp [h.path, queryChars]
  unfold ofUri at hurl
  rw [htext, hsplit] at hurl
  dsimp only [bind, Except.bind] at hurl
  rw [ofRest_web hweb hfile (by simpa using hne) hauthority hmark] at hurl
  obtain ⟨host, -, rfl⟩ := map_eq_ok.mp hurl
  exact ⟨rfl, rfl⟩

/-- A url has the path and the query of the uri it was read from exactly if both are kept. -/
theorem target_eq_iff (h : IsRequestUri uri path) (hurl : ofUri uri = .ok url) :
    url.target = uri.target.text.toList ↔
      KeepsPath uri.target.path.toList ∧
        ∀ query ∈ uri.target.query, ∀ c ∈ query.toList, IsPlain webQuerySpecial c := by
  obtain ⟨hpath, hquery⟩ := ofUri_inv h hurl
  have hresolved : '?' ∉ url.path := by
    rw [hpath]
    intro hmem
    exact absurd (isPathPlain_of_mem_resolvePath '?' hmem) (by decide)
  have htarget : url.target = url.path ++ queryChars url.query := rfl
  have htext : uri.target.text.toList =
      '/' :: path ++ queryChars (uri.target.query.map String.toList) := by
    rw [Target.text, String.toList_append, h.path]
    cases uri.target.query with
    | none => simp [queryChars]
    | some query => simp [queryChars]
  rw [htarget, htext, append_queryChars_inj hresolved h.no_mark, hpath, hquery, h.path,
    resolvePath_eq_iff]
  refine and_congr_right fun _ => ?_
  cases uri.target.query with
  | none => simp
  | some query => simp [percentEncode_eq_self_iff isPlain_codeChars_query]

end

end Url

end SignedPayments
