import SignedPayments.Http.Uri
import SignedPayments.Proofs.Outcome
import SignedPayments.Proofs.Text.Scan

/-!
# SignedPayments.Proofs.Http.Uri

How uris are read, as relations between their characters and their parts.

* `Target.Splits` and `Uri.Absolute` say which characters are which part. They hold of
  exactly the characters that are read so, and say nothing about scans.
* An authority ends at the first slash. So what is put after an absolute uri, and
  begins with a slash, changes its target only (`Uri.origin_of_append`).
* Reading a target that was written gives it back, but for an empty query, which is
  not written (`Target.text_of_ofText_sent`).
-/

namespace SignedPayments

namespace Http

/-! ### Schemes -/

namespace Scheme

/-- The scheme with a name, of which `http` and `https` may be written in either case. -/
def ofName (name : List Char) : Except Fault Scheme :=
  let lower := (String.ofList name).toLower
  if lower = "http" ∨ lower = "https" then .ok ⟨lower⟩
  else if mostLength < name.length then .error .schemeTooLong
  else .ok ⟨String.ofList name⟩

/-- A name before a mark is read as a scheme, unless nothing else is there. -/
theorem split_mark {name rest : List Char} (hname : ∀ c ∈ name, isSchemeChar c = true)
    (hne : name ++ rest ≠ []) :
    split (name ++ (mark ++ rest)) = (ofName name).map fun scheme => (some scheme, rest) := by
  have hstop : ∀ c ∈ (mark ++ rest).head?, isSchemeChar c = false := by
    simp [mark, isSchemeChar, Char.isAlphanum]
  have hlength : mark.length < (name ++ (mark ++ rest)).length := by
    have hpos := List.length_pos_iff.mpr hne
    simp only [List.length_append] at hpos ⊢
    omega
  unfold split
  dsimp only
  rw [takeWhile_append_stop hname hstop, dropWhile_append_stop hname hstop, List.drop_left,
    if_pos (Bool.and_eq_true_iff.mpr ⟨by simp, decide_eq_true hlength⟩)]
  unfold ofName
  dsimp only
  split
  · rfl
  · split <;> rfl

/-- When a scheme is read. -/
theorem split_eq_some_iff {cs rest : List Char} {scheme : Scheme} :
    split cs = .ok (some scheme, rest) ↔
      ∃ name, cs = name ++ (mark ++ rest) ∧ (∀ c ∈ name, isSchemeChar c = true) ∧
        name ++ rest ≠ [] ∧ ofName name = .ok scheme := by
  constructor
  · intro h
    have hread : ∃ name after, cs = name ++ (mark ++ after) ∧
        (∀ c ∈ name, isSchemeChar c = true) ∧ name ++ after ≠ [] := by
      unfold split at h
      dsimp only at h
      split at h
      case isFalse => simp at h
      case isTrue hmark =>
        rw [Bool.and_eq_true, List.isPrefixOf_iff_prefix, decide_eq_true_eq] at hmark
        obtain ⟨⟨after, hafter⟩, hlength⟩ := hmark
        have hcs : cs = cs.takeWhile isSchemeChar ++ (mark ++ after) := by
          rw [hafter, List.takeWhile_append_dropWhile]
        refine ⟨_, after, hcs, fun c => pass_of_mem_takeWhile, ?_⟩
        intro hnil
        rw [List.append_eq_nil_iff] at hnil
        rw [hcs, hnil.1, hnil.2] at hlength
        simp at hlength
    obtain ⟨name, after, rfl, hname, hne⟩ := hread
    rw [split_mark hname hne] at h
    obtain ⟨s, hscheme, heq⟩ := map_eq_ok.mp h
    cases heq
    exact ⟨name, rfl, hname, hne, hscheme⟩
  · rintro ⟨name, rfl, hname, hne, hscheme⟩
    rw [split_mark hname hne, hscheme]
    rfl

end Scheme

/-! ### Authorities -/

namespace Authority

/-- Characters that end nothing are an authority, or empty. -/
def Accepted (front : List Char) : Prop :=
  ∃ seen, front.foldlM step {} = .ok seen ∧
    ¬(seen.opened != seen.closed || 1 < seen.colons || front.getLast? = some '@' ||
      seen.percent) = true

/-- An authority is read up to the first character that ends one. -/
theorem split_eq_ok_iff {cs front rest : List Char} :
    split cs = .ok (front, rest) ↔
      cs = front ++ rest ∧ (∀ c ∈ front, isEnd c = false) ∧ (∀ c ∈ rest.head?, isEnd c = true) ∧
        Accepted front := by
  unfold split
  simp only [bind_eq_ok, refuse_eq_ok, pure_eq_ok, Prod.mk.injEq]
  constructor
  · rintro ⟨seen, hseen, hgood, rfl, rfl⟩
    refine ⟨List.takeWhile_append_dropWhile.symm, ?_, ?_, seen, hseen, hgood⟩
    · intro c hc
      simpa using pass_of_mem_takeWhile hc
    · intro c hc
      simpa using stop_of_mem_head?_dropWhile hc
  · rintro ⟨rfl, hfront, hrest, seen, hseen, hgood⟩
    have hpass : ∀ c ∈ front, (!isEnd c) = true := by simpa using hfront
    have hstop : ∀ c ∈ rest.head?, (!isEnd c) = false := by simpa using hrest
    rw [takeWhile_append_stop hpass hstop, dropWhile_append_stop hpass hstop]
    exact ⟨seen, hseen, hgood, rfl, rfl⟩

theorem ne_backslash_of_foldlM {front : List Char} {seen last : Seen}
    (h : front.foldlM step seen = .ok last) : ∀ c ∈ front, c ≠ '\\' := by
  induction front generalizing seen with
  | nil => simp
  | cons d front ih =>
      rw [List.foldlM_cons] at h
      obtain ⟨next, hstep, hrest⟩ := bind_eq_ok.mp h
      refine List.forall_mem_cons.mpr ⟨?_, ih hrest⟩
      rintro rfl
      cases hstep

/-- An authority has no backslashes. -/
theorem Accepted.ne_backslash {front : List Char} (h : Accepted front) :
    ∀ c ∈ front, c ≠ '\\' := by
  obtain ⟨last, hlast, -⟩ := h
  exact ne_backslash_of_foldlM hlast

end Authority

/-! ### Targets -/

namespace Target

/-- A query with the mark before it, as it is written. -/
def queryChars (query : Option (List Char)) : List Char := query.elim [] ('?' :: ·)

/-- How characters are read as a target: a path, a query, and a rest that a number sign
begins and that is dropped. -/
structure Splits (cs path : List Char) (query : Option (List Char)) (rest : List Char) : Prop where
  eq : cs = path ++ (queryChars query ++ rest)
  path_chars : ∀ c ∈ path, c ≠ '#' ∧ c ≠ '?'
  query_chars : ∀ q ∈ query, ∀ c ∈ q, c ≠ '#'
  rest_head : ∀ c ∈ rest.head?, c = '#'

theorem exists_splits (cs : List Char) : ∃ path query rest, Splits cs path query rest := by
  have hkeep : ∀ c ∈ cs.takeWhile (· ≠ '#'), c ≠ '#' := fun c hc => by
    simpa using pass_of_mem_takeWhile hc
  have hrest : ∀ c ∈ (cs.dropWhile (· ≠ '#')).head?, c = '#' := fun c hc => by
    simpa using stop_of_mem_head?_dropWhile hc
  have hcs : cs.takeWhile (· ≠ '#') ++ cs.dropWhile (· ≠ '#') = cs :=
    List.takeWhile_append_dropWhile
  generalize cs.takeWhile (· ≠ '#') = keep, cs.dropWhile (· ≠ '#') = rest at hkeep hrest hcs
  have hpath : ∀ c ∈ keep.takeWhile (· ≠ '?'), c ≠ '#' ∧ c ≠ '?' := fun c hc =>
    ⟨hkeep c (List.takeWhile_subset _ hc), by simpa using pass_of_mem_takeWhile hc⟩
  have hsplit : keep.takeWhile (· ≠ '?') ++ keep.dropWhile (· ≠ '?') = keep :=
    List.takeWhile_append_dropWhile
  cases hquery : keep.dropWhile (· ≠ '?') with
  | nil =>
      rw [hquery, List.append_nil] at hsplit
      exact ⟨_, none, rest, by rw [hsplit, ← hcs]; rfl, hpath, by simp, hrest⟩
  | cons c query =>
      have hmark : ∀ d ∈ (keep.dropWhile (· ≠ '?')).head?, d = '?' := fun d hd => by
        simpa using stop_of_mem_head?_dropWhile hd
      obtain rfl : c = '?' := hmark c (by rw [hquery]; rfl)
      rw [hquery] at hsplit
      refine ⟨_, some query, rest, ?_, hpath, ?_, hrest⟩
      · rw [← hcs, ← List.append_assoc]
        exact congrArg (· ++ rest) hsplit.symm
      · rintro q ⟨⟩ c hc
        refine hkeep c ?_
        rw [← hsplit]
        simp [hc]

theorem head?_queryChars (query : Option (List Char)) :
    ∀ c ∈ (queryChars query).head?, c = '?' := by
  cases query <;> simp [queryChars]

section

variable {cs path rest : List Char} {query : Option (List Char)}

/-- What is read has no number sign. -/
theorem Splits.kept_chars (h : Splits cs path query rest) :
    ∀ c ∈ path ++ queryChars query, c ≠ '#' := by
  intro c hc
  rcases List.mem_append.mp hc with hc | hc
  · exact (h.path_chars c hc).1
  · cases query with
    | none => simp [queryChars] at hc
    | some q =>
        rcases List.mem_cons.mp hc with rfl | hc
        · decide
        · exact h.query_chars q rfl c hc

/-- What is read stands before the first number sign. -/
theorem Splits.kept_eq (h : Splits cs path query rest) :
    cs.takeWhile (· ≠ '#') = path ++ queryChars query := by
  rw [h.eq, ← List.append_assoc]
  exact takeWhile_append_stop (fun c hc => by simpa using h.kept_chars c hc)
    (fun c hc => by simpa using h.rest_head c hc)

/-- The path is what stands before the first question mark there. -/
theorem Splits.path_eq (h : Splits cs path query rest) :
    (path ++ queryChars query).takeWhile (· ≠ '?') = path ∧
      (path ++ queryChars query).dropWhile (· ≠ '?') = queryChars query := by
  have hpath : ∀ c ∈ path, decide (c ≠ '?') = true := fun c hc => by
    simpa using (h.path_chars c hc).2
  have hmark : ∀ c ∈ (queryChars query).head?, decide (c ≠ '?') = false := fun c hc => by
    simpa using head?_queryChars query c hc
  exact ⟨takeWhile_append_stop hpath hmark, dropWhile_append_stop hpath hmark⟩

/-- What is dropped does not matter. -/
theorem ofChars_of_splits (h : Splits cs path query rest) : ofChars cs = ofParts path query := by
  unfold ofChars
  dsimp only
  rw [h.kept_eq, h.path_eq.1, h.path_eq.2]
  cases query <;> rfl

/-- The parts of a target that was read. -/
theorem ofParts_inv {t : Target} (h : ofParts path query = .ok t) :
    t.written = String.ofList path ∧ t.query = query.map String.ofList := by
  unfold ofParts at h
  split at h
  · split at h
    · cases h
      exact ⟨rfl, rfl⟩
    · cases h
  · cases h

end

end Target

/-! ### What is sent -/

namespace Target

/-- A path and a query in one text, as a server sees them. -/
def text (t : Target) : String := t.path ++ t.query.elim "" ("?" ++ ·)

/-- The same without a query that is empty. -/
def sent (t : Target) : String :=
  match t.query with
  | none => t.path
  | some query => if query = "" then t.path else t.path ++ "?" ++ query

theorem path_ne_empty (t : Target) : t.path ≠ "" := by
  unfold path
  split
  · decide
  · assumption

/-- The query that is sent: an empty one counts as none. -/
def sentQuery (t : Target) : Option String := t.query.filter (· ≠ "")

theorem sent_eq (t : Target) : t.sent = t.path ++ t.sentQuery.elim "" ("?" ++ ·) := by
  unfold sent sentQuery
  cases t.query with
  | none => simp
  | some query => by_cases hq : query = "" <;> simp [Option.filter, hq, String.append_assoc]

theorem path_chars (t : Target) : ∀ c ∈ t.path.toList, isPathChar c = true := by
  unfold path
  split
  · exact List.all_eq_true.mp rfl
  · exact List.all_eq_true.mp t.written_chars

theorem ne_marks_of_isPathChar {c : Char} (h : isPathChar c = true) : c ≠ '#' ∧ c ≠ '?' := by
  constructor
  · rintro rfl
    exact absurd h (by decide)
  · rintro rfl
    exact absurd h (by decide)

theorem ne_mark_of_isQueryChar {c : Char} (h : isQueryChar c = true) : c ≠ '#' := by
  rintro rfl
  exact absurd h (by decide)

theorem splits_sent (t : Target) :
    Splits t.sent.toList t.path.toList (t.sentQuery.map String.toList) [] where
  eq := by
    rw [sent_eq, String.toList_append, List.append_nil]
    cases t.sentQuery <;> simp [queryChars]
  path_chars := fun c hc => ne_marks_of_isPathChar (t.path_chars c hc)
  query_chars := by
    intro q hq c hc
    obtain ⟨query, hquery, rfl⟩ := Option.map_eq_some_iff.mp hq
    have hmem : query ∈ t.query := Option.eq_some_of_filter_eq_some hquery
    have hall := t.query_chars
    rw [Option.mem_def.mp hmem, Option.all_some] at hall
    exact ne_mark_of_isQueryChar (List.all_eq_true.mp hall c hc)
  rest_head := by simp

/-- A target alone is read like one after an authority. -/
theorem ofChars_of_ofText {text : String} {t : Target} (h : ofText text = .ok t) :
    ofChars text.toList = .ok t := by
  unfold ofText at h
  dsimp only at h
  obtain ⟨-, h⟩ := refuse_eq_ok.mp h
  split at h
  · cases h
  · next hstar =>
    cases h
    rw [hstar]
    rfl
  · next hcons =>
    rw [hcons]
    split at h
    · exact h
    · cases h

/-- Reading what is sent gives what was sent: its path, and its query if there is one. -/
theorem ofText_sent_inv {t t' : Target} (h : ofText t.sent = .ok t') :
    t'.written = t.path ∧ t'.query = t.sentQuery := by
  have hparts := ofChars_of_ofText h
  rw [ofChars_of_splits t.splits_sent] at hparts
  obtain ⟨hwritten, hquery⟩ := ofParts_inv hparts
  rw [String.ofList_toList] at hwritten
  refine ⟨hwritten, ?_⟩
  rw [hquery]
  cases t.sentQuery <;> simp

theorem path_of_ofText_sent {t t' : Target} (h : ofText t.sent = .ok t') : t'.path = t.path := by
  rw [path, (ofText_sent_inv h).1, if_neg t.path_ne_empty]

/-- What is sent is what a server sees. -/
theorem text_of_ofText_sent {t t' : Target} (h : ofText t.sent = .ok t') : t'.text = t.sent := by
  rw [text, path_of_ofText_sent h, (ofText_sent_inv h).2, ← sent_eq]

theorem sentQuery_of_ofText_sent {t t' : Target} (h : ofText t.sent = .ok t') :
    t'.sentQuery = t.sentQuery := by
  have hquery := (ofText_sent_inv h).2
  unfold sentQuery at hquery ⊢
  rw [hquery, Option.filter_filter]
  simp

/-- What was sent and read is sent again as it is. -/
theorem sent_of_ofText_sent {t t' : Target} (h : ofText t.sent = .ok t') : t'.sent = t.sent := by
  rw [sent_eq, sent_eq t, path_of_ofText_sent h, sentQuery_of_ofText_sent h]

end Target

/-! ### Absolute uris -/

namespace Uri

/-- How characters are read as a uri with a scheme: what stands before its mark, the
authority, and what follows the authority. -/
structure Absolute (cs name authority rest : List Char) (scheme : Scheme) : Prop where
  eq : cs = name ++ (Scheme.mark ++ (authority ++ rest))
  name_chars : ∀ c ∈ name, Scheme.isSchemeChar c = true
  scheme_eq : Scheme.ofName name = .ok scheme
  authority_ne_nil : authority ≠ []
  authority_chars : ∀ c ∈ authority, Authority.isEnd c = false
  authority_accepted : Authority.Accepted authority
  rest_head : ∀ c ∈ rest.head?, Authority.isEnd c = true

section

variable {cs name authority rest : List Char} {scheme : Scheme}

/-- What begins with the end of an authority changes neither scheme nor authority of
what it is put after. -/
theorem Absolute.append (h : Absolute cs name authority rest scheme) {more : List Char}
    (hmore : ∀ c ∈ more.head?, Authority.isEnd c = true) :
    Absolute (cs ++ more) name authority (rest ++ more) scheme :=
  { h with
    eq := by
      rw [h.eq]
      simp only [List.append_assoc]
    rest_head := by
      cases hrest : rest with
      | nil => simpa using hmore
      | cons c rest =>
          intro d hd
          exact h.rest_head d (by simpa [hrest] using hd) }

theorem Absolute.front_chars (h : Absolute cs name authority rest scheme) :
    ∀ c ∈ name ++ (Scheme.mark ++ authority), c ≠ '#' ∧ c ≠ '?' := by
  intro c hc
  simp only [List.mem_append] at hc
  rcases hc with hc | hc | hc
  · have hname := h.name_chars c hc
    constructor
    · rintro rfl
      exact absurd hname (by decide)
    · rintro rfl
      exact absurd hname (by decide)
  · simp only [Scheme.mark, List.mem_cons, List.not_mem_nil, or_false] at hc
    rcases hc with rfl | rfl | rfl <;> decide
  · have hauthority := h.authority_chars c hc
    constructor
    · rintro rfl
      exact absurd hauthority (by decide)
    · rintro rfl
      exact absurd hauthority (by decide)

/-- An absolute uri begins with no slash. -/
theorem Absolute.head?_ne (h : Absolute cs name authority rest scheme) : cs.head? ≠ some '/' := by
  intro hhead
  cases name with
  | nil =>
      rw [h.eq] at hhead
      exact absurd hhead (by simp [Scheme.mark])
  | cons c name =>
      have hc : c = '/' := by simpa [h.eq] using hhead
      exact absurd (h.name_chars c (by simp)) (by rw [hc]; decide)

/-- An absolute uri has more than one character. -/
theorem Absolute.one_lt_length (h : Absolute cs name authority rest scheme) : 1 < cs.length := by
  rw [h.eq]
  simp only [List.length_append, Scheme.mark, List.length_cons]
  omega

theorem ofWhole_of_absolute (h : Absolute cs name authority rest scheme) :
    ofWhole cs = (Target.ofChars rest).map fun target =>
      ⟨some scheme, some ⟨String.ofList authority⟩, target⟩ := by
  have hscheme : Scheme.split cs = .ok (some scheme, authority ++ rest) :=
    Scheme.split_eq_some_iff.mpr
      ⟨name, h.eq, h.name_chars, by simp [h.authority_ne_nil], h.scheme_eq⟩
  have hauthority : Authority.split (authority ++ rest) = .ok (authority, rest) :=
    Authority.split_eq_ok_iff.mpr
      ⟨rfl, h.authority_chars, h.rest_head, h.authority_accepted⟩
  unfold ofWhole
  simp only [hscheme, hauthority, bind, Except.bind]
  rw [if_neg (by simp [h.authority_ne_nil]), if_neg h.authority_ne_nil]
  cases Target.ofChars rest <;> rfl

/-- A whole uri with a scheme was read as an absolute one. -/
theorem absolute_of_ofWhole {uri : Uri} (h : ofWhole cs = .ok uri) (hs : uri.scheme = some scheme) :
    ∃ name authority rest, Absolute cs name authority rest scheme := by
  unfold ofWhole at h
  simp only [bind_eq_ok, refuse_eq_ok] at h
  obtain ⟨⟨scheme?, after⟩, hscheme, -, ⟨authority, rest⟩, hauthority, h⟩ := h
  cases scheme? with
  | none =>
      obtain ⟨-, h⟩ := refuse_eq_ok.mp h
      cases h
      cases hs
  | some s =>
      simp only [refuse_eq_ok, bind_eq_ok, pure_eq_ok] at h
      obtain ⟨hne, target, -, rfl⟩ := h
      cases hs
      obtain ⟨name, hcs, hname, -, hnamed⟩ := Scheme.split_eq_some_iff.mp hscheme
      obtain ⟨rfl, hchars, hhead, haccepted⟩ := Authority.split_eq_ok_iff.mp hauthority
      exact ⟨name, authority, rest, hcs, hname, hnamed, hne, hchars, haccepted, hhead⟩

end

/-! ### Texts -/

section

variable {text : String} {uri : Uri}

theorem utf8ByteSize_le_of_ofText (h : ofText text = .ok uri) : text.utf8ByteSize ≤ mostBytes := by
  unfold ofText at h
  dsimp only at h
  exact Nat.not_lt.mp (refuse_eq_ok.mp h).1

/-- A text of a uri with a scheme is read as a whole. -/
theorem ofWhole_of_ofText {scheme : Scheme} (h : ofText text = .ok uri)
    (hs : uri.scheme = some scheme) : ofWhole text.toList = .ok uri := by
  unfold ofText at h
  dsimp only at h
  obtain ⟨-, h⟩ := refuse_eq_ok.mp h
  split at h
  · cases h
  · cases h
    cases hs
  · cases h
    cases hs
  · next c hc =>
    rw [hc]
    split at h
    · simp only [bind_eq_ok, pure_eq_ok] at h
      obtain ⟨authority, -, rfl⟩ := h
      cases hs
    · exact h
  · next rest _ _ =>
    simp only [bind_eq_ok, pure_eq_ok] at h
    obtain ⟨target, -, rfl⟩ := h
    cases hs
  · exact h

/-- An absolute uri is read as a whole, if it is not too long. -/
theorem ofText_of_absolute {name authority rest : List Char} {scheme : Scheme}
    (h : Absolute text.toList name authority rest scheme) (hshort : text.utf8ByteSize ≤ mostBytes) :
    ofText text = ofWhole text.toList := by
  have hhead := h.head?_ne
  have hlength := h.one_lt_length
  unfold ofText
  simp only [Nat.not_lt.mpr hshort, if_false]
  split
  · next hcs => simp [hcs] at hlength
  · next hcs => simp [hcs] at hlength
  · next hcs => simp [hcs] at hlength
  · next hcs => simp [hcs] at hlength
  · next hcs => simp [hcs] at hhead
  · rfl

/-- The parts of an absolute uri that was read. -/
theorem parts_of_absolute {name authority rest : List Char} {scheme : Scheme}
    (h : Absolute text.toList name authority rest scheme) (huri : ofText text = .ok uri) :
    uri.scheme = some scheme ∧ uri.authority = some ⟨String.ofList authority⟩ ∧
      Target.ofChars rest = .ok uri.target := by
  rw [ofText_of_absolute h (utf8ByteSize_le_of_ofText huri), ofWhole_of_absolute h] at huri
  obtain ⟨target, htarget, rfl⟩ := map_eq_ok.mp huri
  exact ⟨rfl, rfl, htarget⟩

/-- A uri with a scheme was read as an absolute one, from these parts. -/
theorem exists_absolute (h : ofText text = .ok uri) (hs : uri.scheme.isSome) :
    ∃ name authority rest scheme, Absolute text.toList name authority rest scheme ∧
      uri.authority = some ⟨String.ofList authority⟩ ∧ Target.ofChars rest = .ok uri.target := by
  obtain ⟨scheme, hscheme⟩ := Option.isSome_iff_exists.mp hs
  obtain ⟨name, authority, rest, habsolute⟩ :=
    absolute_of_ofWhole (ofWhole_of_ofText h hscheme) hscheme
  exact ⟨name, authority, rest, scheme, habsolute, (parts_of_absolute habsolute h).2⟩

/-- What is put after an absolute uri, and begins with a slash, is put after what
follows its authority. -/
theorem absolute_append {more : String} (h : ofText text = .ok uri) (hs : uri.scheme.isSome)
    (hmore : more.toList.head? = some '/') :
    ∃ name authority rest scheme, Absolute text.toList name authority rest scheme ∧
      Absolute (text ++ more).toList name authority (rest ++ more.toList) scheme := by
  obtain ⟨name, authority, rest, scheme, habsolute, -⟩ := exists_absolute h hs
  have hend : ∀ c ∈ more.toList.head?, Authority.isEnd c = true := by
    rw [hmore]
    rintro c ⟨⟩
    rfl
  refine ⟨name, authority, rest, scheme, habsolute, ?_⟩
  rw [String.toList_append]
  exact habsolute.append hend

section

variable {more : String} {uri' : Uri}

/-- Text that begins with a slash does not change where an absolute uri leads. -/
theorem origin_of_append (h : ofText text = .ok uri) (hs : uri.scheme.isSome)
    (hmore : more.toList.head? = some '/') (h' : ofText (text ++ more) = .ok uri') :
    uri'.scheme = uri.scheme ∧ uri'.authority = uri.authority := by
  obtain ⟨name, authority, rest, scheme, habsolute, habsolute'⟩ := absolute_append h hs hmore
  obtain ⟨hscheme, hauthority, -⟩ := parts_of_absolute habsolute h
  obtain ⟨hscheme', hauthority', -⟩ := parts_of_absolute habsolute' h'
  exact ⟨hscheme'.trans hscheme.symm, hauthority'.trans hauthority.symm⟩

/-- It is read together with the target of the uri. -/
theorem target_of_append (h : ofText text = .ok uri) (hs : uri.scheme.isSome)
    (hmore : more.toList.head? = some '/') (h' : ofText (text ++ more) = .ok uri') :
    ∃ front rest, text.toList = front ++ rest ∧ (∀ c ∈ front, c ≠ '#' ∧ c ≠ '?') ∧
      Target.ofChars rest = .ok uri.target ∧
      Target.ofChars (rest ++ more.toList) = .ok uri'.target := by
  obtain ⟨name, authority, rest, scheme, habsolute, habsolute'⟩ := absolute_append h hs hmore
  obtain ⟨-, -, htarget⟩ := parts_of_absolute habsolute h
  obtain ⟨-, -, htarget'⟩ := parts_of_absolute habsolute' h'
  refine ⟨name ++ (Scheme.mark ++ authority), rest, ?_, habsolute.front_chars, htarget, htarget'⟩
  rw [habsolute.eq]
  simp only [List.append_assoc]

end

end

end Uri

end Http

end SignedPayments
