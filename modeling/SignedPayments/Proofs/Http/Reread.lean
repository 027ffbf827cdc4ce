import SignedPayments.Proofs.Http.Appended

/-!
# SignedPayments.Proofs.Http.Reread

The target of a uri with a scheme can always be read again from what is sent of it
(`Uri.exists_ofText_sent`). Such a target begins with a slash, its characters may stand in
a target since they did before, and it is no longer than the uri: the slash that is put
before a query without a path takes less than the mark after the scheme did.
-/

namespace SignedPayments

namespace Http

/-! ### Sizes -/

/-- The bytes that characters take. -/
def size (cs : List Char) : Nat := (String.ofList cs).utf8ByteSize

theorem size_append (xs ys : List Char) : size (xs ++ ys) = size xs + size ys := by
  rw [size, String.ofList_append, String.utf8ByteSize_append]
  rfl

theorem size_toList (s : String) : size s.toList = s.utf8ByteSize := by
  rw [size, String.ofList_toList]

namespace Target

section

variable {cs path rest : List Char} {query : Option (List Char)} {t : Target}

/-- What is sent of a target takes at most one more byte than the target. -/
theorem size_sentChars_le (h : Splits cs path query rest) :
    size (sentChars path query) ≤ size cs + 1 := by
  have hpath : size (if path = [] then ['/'] else path) ≤ size path + 1 := by
    split
    · exact Nat.le_add_left 1 _
    · exact Nat.le_add_right _ 1
  have hquery : size (queryChars (query.filter (· ≠ []))) ≤ size (queryChars query) := by
    cases query with
    | none => exact Nat.le_refl _
    | some q =>
        by_cases hnil : q = []
        · simp [hnil, queryChars, Option.filter, size]
        · simp [hnil, Option.filter]
  rw [sentChars, h.eq, size_append, size_append, size_append]
  omega

/-- The path of what follows an authority begins with a slash. -/
theorem head?_path_of_splits (h : Splits cs path query rest)
    (hhead : ∀ c ∈ cs.head?, Authority.isEnd c = true) :
    (if path = [] then ['/'] else path).head? = some '/' := by
  split
  · rfl
  · next hne =>
    obtain ⟨c, path, rfl⟩ := List.exists_cons_of_ne_nil hne
    obtain ⟨hnumber, hquestion⟩ := h.path_chars c List.mem_cons_self
    have hend := hhead c (by simp [h.eq])
    simp only [Authority.isEnd, Bool.or_eq_true, decide_eq_true_eq] at hend
    have hslash : c = '/' := by
      rcases hend with (hslash | hend) | hend
      · exact hslash
      · exact absurd hend hquestion
      · exact absurd hend hnumber
    rw [hslash, List.head?_cons]

end

/-- What is sent of a target is read if it is not too long and begins with a slash. -/
theorem exists_ofText_sent {t : Target} (hshort : t.sent.utf8ByteSize ≤ mostBytes)
    (hslash : t.sent.toList.head? = some '/') : ∃ t', ofText t.sent = .ok t' := by
  have hpath : t.path.toList.all isPathChar = true := List.all_eq_true.mpr t.path_chars
  have hquery : ((t.sentQuery.map String.toList).map String.ofList).all
      (·.toList.all isQueryChar) = true := by
    have hsame : (t.sentQuery.map String.toList).map String.ofList = t.sentQuery := by
      cases t.sentQuery <;> simp
    rw [hsame]
    cases hsent : t.sentQuery with
    | none => rfl
    | some query =>
        have hmem : t.query = some query := Option.eq_some_of_filter_eq_some hsent
        simpa [hmem] using t.query_chars
  have hread : ∃ t', ofChars t.sent.toList = .ok t' := by
    rw [ofChars_of_splits t.splits_sent]
    unfold ofParts
    rw [dif_pos hpath, dif_pos hquery]
    exact ⟨_, rfl⟩
  obtain ⟨t', ht'⟩ := hread
  obtain ⟨rest, hrest⟩ : ∃ rest, t.sent.toList = '/' :: rest := by
    cases hcs : t.sent.toList with
    | nil => simp [hcs] at hslash
    | cons c rest => exact ⟨rest, by simpa [hcs] using hslash⟩
  refine ⟨t', ?_⟩
  rw [hrest] at ht'
  unfold ofText
  simp only [Nat.not_lt.mpr hshort, if_false, hrest]
  exact ht'

end Target

namespace Uri

variable {text : String} {uri : Uri}

/-- The path of a uri with a scheme begins with a slash. -/
theorem head?_path (h : ofText text = .ok uri) (hs : uri.scheme.isSome) :
    uri.target.path.toList.head? = some '/' := by
  obtain ⟨name, authority, rest, scheme, habsolute, -, htarget⟩ := exists_absolute h hs
  obtain ⟨path, query, dropped, hsplits⟩ := Target.exists_splits rest
  rw [Target.path_of_splits hsplits htarget, Target.head?_path_of_splits hsplits habsolute.rest_head]

/-- The target of a uri with a scheme can be read again. -/
theorem exists_ofText_sent (h : ofText text = .ok uri) (hs : uri.scheme.isSome) :
    ∃ target, Target.ofText uri.target.sent = .ok target := by
  obtain ⟨name, authority, rest, scheme, habsolute, -, htarget⟩ := exists_absolute h hs
  obtain ⟨path, query, dropped, hsplits⟩ := Target.exists_splits rest
  obtain ⟨-, hsent⟩ := Target.chars_of_splits hsplits htarget
  have hslash : uri.target.sent.toList.head? = some '/' := by
    rw [uri.target.splits_sent.eq, List.head?_append, head?_path h hs]
    rfl
  refine Target.exists_ofText_sent ?_ hslash
  have hwhole := utf8ByteSize_le_of_ofText h
  have hsize := Target.size_sentChars_le hsplits
  have hmark : size Scheme.mark = 3 := rfl
  rw [← size_toList, habsolute.eq, size_append, size_append, size_append] at hwhole
  rw [← size_toList, hsent]
  omega

end Uri

end Http

end SignedPayments
