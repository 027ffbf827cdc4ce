import SignedPayments.Proofs.Http.Uri

/-!
# SignedPayments.Proofs.Http.Appended

What becomes of text that is put after a target and read with it. Three things can
happen to it, by what stands in the target before it (`Target.Splits.append_rest`,
`append_query`, `append_path`): it is dropped with what a number sign begins, it
becomes part of the query, or it is read as a target of its own.

Only in the last case it can be sent as it is, and then unless something of it is
dropped: what a number sign begins, or a question mark that nothing follows.
`Target.sent_append_iff` is the exact condition.
-/

namespace SignedPayments

namespace Http

namespace Target

/-! ### What is sent, as characters -/

/-- What is sent of a path and a query. -/
def sentChars (path : List Char) (query : Option (List Char)) : List Char :=
  (if path = [] then ['/'] else path) ++ queryChars (query.filter (· ≠ []))

section

variable {cs path rest : List Char} {query : Option (List Char)} {t : Target}

/-- The path of a target that was read. -/
theorem path_of_splits (h : Splits cs path query rest) (ht : ofChars cs = .ok t) :
    t.path.toList = if path = [] then ['/'] else path := by
  rw [ofChars_of_splits h] at ht
  obtain ⟨hwritten, -⟩ := ofParts_inv ht
  unfold Target.path
  rw [hwritten]
  by_cases hnil : path = []
  · rw [if_pos hnil, if_pos (by rw [hnil])]
    decide
  · rw [if_neg hnil, if_neg (by simpa using hnil), String.toList_ofList]

/-- What is written in a target that was read, and what is sent of it. -/
theorem chars_of_splits (h : Splits cs path query rest) (ht : ofChars cs = .ok t) :
    t.written.toList = path ∧ t.sent.toList = sentChars path query := by
  have hpath := path_of_splits h ht
  rw [ofChars_of_splits h] at ht
  obtain ⟨hwritten, hquery⟩ := ofParts_inv ht
  refine ⟨by rw [hwritten, String.toList_ofList], ?_⟩
  rw [sent_eq, String.toList_append, hpath, sentChars, sentQuery, hquery]
  congr 1
  cases query with
  | none => rfl
  | some q =>
      by_cases hnil : q = []
      · simp [hnil, queryChars, Option.filter]
      · simp [hnil, queryChars, Option.filter]

/-! ### Marks -/

theorem Splits.no_number_iff (h : Splits cs path query rest) : '#' ∉ cs ↔ rest = [] := by
  constructor
  · intro hnumber
    cases rest with
    | nil => rfl
    | cons c more =>
        obtain rfl : c = '#' := h.rest_head c rfl
        refine absurd ?_ hnumber
        rw [h.eq]
        simp
  · rintro rfl hmem
    rw [h.eq, List.append_nil] at hmem
    exact h.kept_chars _ hmem rfl

/-- A target without marks is a path. -/
theorem Splits.no_marks_iff (h : Splits cs path query rest) :
    ('#' ∉ cs ∧ '?' ∉ cs) ↔ query = none ∧ rest = [] := by
  constructor
  · rintro ⟨hnumber, hquestion⟩
    refine ⟨?_, h.no_number_iff.mp hnumber⟩
    cases query with
    | none => rfl
    | some q =>
        refine absurd ?_ hquestion
        rw [h.eq]
        simp [queryChars]
  · rintro ⟨rfl, rfl⟩
    have hcs : cs = path := by
      rw [h.eq]
      simp [queryChars]
    rw [hcs]
    exact ⟨fun hmem => (h.path_chars _ hmem).1 rfl, fun hmem => (h.path_chars _ hmem).2 rfl⟩

/-- Text that begins with a slash has a path that does. -/
theorem Splits.path_head (h : Splits cs path query rest) (hslash : cs.head? = some '/') :
    path.head? = some '/' := by
  cases path with
  | cons c path => simpa [h.eq] using hslash
  | nil =>
      rw [h.eq, List.nil_append, List.head?_append, Option.or_eq_some_iff] at hslash
      rcases hslash with hslash | ⟨-, hslash⟩
      · exact absurd (head?_queryChars query _ hslash) (by decide)
      · exact absurd (h.rest_head _ hslash) (by decide)

end

/-! ### What becomes of more text -/

section

variable {cs path more path' rest' : List Char} {query query' : Option (List Char)}

/-- After a number sign it is dropped. -/
theorem Splits.append_rest {rest : List Char} (h : Splits cs path query rest) (hne : rest ≠ []) :
    Splits (cs ++ more) path query (rest ++ more) :=
  { h with
    eq := by
      rw [h.eq]
      simp only [List.append_assoc]
    rest_head := by
      obtain ⟨c, rest, rfl⟩ := List.exists_cons_of_ne_nil hne
      exact h.rest_head }

/-- After a question mark all of it that is read becomes part of the query. -/
theorem Splits.append_query {q : List Char} (h : Splits cs path (some q) [])
    (hmore : Splits more path' query' rest') :
    Splits (cs ++ more) path (some (q ++ (path' ++ queryChars query'))) rest' where
  eq := by
    rw [h.eq, hmore.eq]
    simp only [queryChars, Option.elim_some, List.append_assoc, List.cons_append, List.nil_append]
  path_chars := h.path_chars
  query_chars := by
    rintro _ ⟨⟩ c hc
    rcases List.mem_append.mp hc with hc | hc
    · exact h.query_chars q rfl c hc
    · exact hmore.kept_chars c hc
  rest_head := hmore.rest_head

/-- Where no mark is before it, its path follows the path, and the rest of it is read
as it is. -/
theorem Splits.append_path (h : Splits cs path none []) (hmore : Splits more path' query' rest') :
    Splits (cs ++ more) (path ++ path') query' rest' where
  eq := by
    rw [h.eq, hmore.eq]
    simp only [queryChars, Option.elim_none, List.append_nil, List.append_assoc]
  path_chars := by
    intro c hc
    rcases List.mem_append.mp hc with hc | hc
    · exact h.path_chars c hc
    · exact hmore.path_chars c hc
  query_chars := hmore.query_chars
  rest_head := hmore.rest_head

end

/-! ### What is sent of it -/

/-- Text of which nothing is dropped after a path: it has no number sign, and its first
question mark is not its end. -/
def Whole (cs : List Char) : Prop := '#' ∉ cs ∧ ∀ path, cs = path ++ ['?'] → '?' ∈ path

section

variable {cs path rest more : List Char} {query : Option (List Char)}

theorem Splits.whole_iff (h : Splits cs path query rest) :
    Whole cs ↔ rest = [] ∧ query ≠ some [] := by
  constructor
  · rintro ⟨hnumber, hend⟩
    have hrest : rest = [] := h.no_number_iff.mp hnumber
    refine ⟨hrest, ?_⟩
    rintro rfl
    have hcs : cs = path ++ ['?'] := by
      rw [h.eq, hrest]
      rfl
    exact (h.path_chars _ (hend path hcs)).2 rfl
  · rintro ⟨rfl, hquery⟩
    refine ⟨h.no_number_iff.mpr rfl, ?_⟩
    rintro path' rfl
    cases query with
    | none =>
        have hpath : path' ++ ['?'] = path := by
          rw [h.eq]
          simp [queryChars]
        exact absurd rfl (h.path_chars '?' (by simp [← hpath])).2
    | some q =>
        -- The query ends the text, so its mark stands before the last character.
        obtain ⟨front, c, rfl⟩ : ∃ front c, q = front ++ [c] := by
          rcases List.eq_nil_or_concat q with rfl | ⟨front, c, hq⟩
          · exact absurd rfl hquery
          · exact ⟨front, c, by rw [hq, List.concat_eq_append]⟩
        have heq : path' ++ ['?'] = (path ++ '?' :: front) ++ [c] := by
          rw [h.eq]
          simp [queryChars]
        rw [List.append_inj_left' heq rfl]
        simp

/-- Of a query, only an empty one is dropped. -/
theorem queryChars_filter_eq_iff :
    queryChars (query.filter (· ≠ [])) = queryChars query ++ rest ↔
      rest = [] ∧ query ≠ some [] := by
  cases query with
  | none => simp [queryChars, eq_comm]
  | some q =>
      by_cases hnil : q = []
      · simp [hnil, queryChars, Option.filter]
      · simp [hnil, queryChars, Option.filter]

/-- After a path, text is sent as it is exactly if nothing of it is dropped. -/
theorem sentChars_append_path_iff {path' : List Char} (h : Splits more path query rest)
    (hne : path ≠ []) : sentChars (path' ++ path) query = path' ++ more ↔ Whole more := by
  rw [h.whole_iff, ← queryChars_filter_eq_iff, sentChars, if_neg (by simp [hne]), h.eq,
    List.append_assoc, List.append_cancel_left_eq, List.append_cancel_left_eq]

/-- What became part of a query is not sent as what follows the path. -/
theorem sentChars_append_query_ne {q path' : List Char} (h : Splits cs path' (some q) [])
    (hmore : Splits more path query rest) (hslash : more.head? = some '/') :
    sentChars path' (some (q ++ (path ++ queryChars query))) ≠ path' ++ more := by
  have hne : path ≠ [] := by
    rintro rfl
    cases hmore.path_head hslash
  have hfilter : (some (q ++ (path ++ queryChars query))).filter (· ≠ []) =
      some (q ++ (path ++ queryChars query)) := by
    simp [Option.filter, hne]
  intro heq
  rw [sentChars, hfilter] at heq
  by_cases hpath : path' = []
  · -- No number sign is on the left side. So nothing is dropped, and the sides differ in length.
    rw [if_pos hpath, hpath, List.nil_append] at heq
    have hnumber : '#' ∉ more := by
      rw [← heq]
      intro hmem
      rcases List.mem_append.mp hmem with hmem | hmem
      · exact absurd hmem (by decide)
      rcases List.mem_cons.mp hmem with hmem | hmem
      · exact absurd hmem (by decide)
      rcases List.mem_append.mp hmem with hmem | hmem
      · exact h.query_chars q rfl _ hmem rfl
      · exact hmore.kept_chars _ hmem rfl
    have hlength := congrArg List.length heq
    rw [hmore.eq, hmore.no_number_iff.mp hnumber] at hlength
    simp only [queryChars, Option.elim_some, List.length_append, List.length_cons,
      List.length_nil] at hlength
    omega
  · rw [if_neg hpath, List.append_cancel_left_eq] at heq
    rw [← heq] at hslash
    exact absurd (head?_queryChars _ _ hslash) (by decide)

/-- What is dropped is sent only if the target is, by chance, the same. -/
theorem sentChars_eq_append_iff (hslash : more.head? = some '/') :
    sentChars path query = path ++ more ↔ path = [] ∧ sentChars path query = more := by
  constructor
  · intro heq
    by_cases hpath : path = []
    · refine ⟨hpath, ?_⟩
      rw [heq, hpath, List.nil_append]
    · rw [sentChars, if_neg hpath, List.append_cancel_left_eq] at heq
      rw [← heq] at hslash
      exact absurd (head?_queryChars _ _ hslash) (by decide)
  · rintro ⟨rfl, heq⟩
    rw [heq, List.nil_append]

end

/-- When text that is put after a target, and begins with a slash, is sent as it is after
the path of the target: if the target is a path and nothing of the text is dropped.
Where all of it is dropped, the target may be the same by chance. -/
theorem sent_append_iff {cs more : List Char} {t t' : Target} (hslash : more.head? = some '/')
    (ht : ofChars cs = .ok t) (ht' : ofChars (cs ++ more) = .ok t') :
    t'.sent.toList = t.written.toList ++ more ↔
      ('#' ∉ cs ∧ '?' ∉ cs ∧ Whole more) ∨
        ('#' ∈ cs ∧ t.written.toList = [] ∧ t.sent.toList = more) := by
  obtain ⟨path, query, rest, h⟩ := exists_splits cs
  obtain ⟨hwritten, hsent⟩ := chars_of_splits h ht
  rw [hwritten, hsent]
  by_cases hnumber : '#' ∈ cs
  · have hrest : rest ≠ [] := fun hnil => h.no_number_iff.mpr hnil hnumber
    obtain ⟨-, hsent'⟩ := chars_of_splits (h.append_rest hrest) ht'
    rw [hsent', sentChars_eq_append_iff hslash]
    simp [hnumber]
  · obtain rfl := h.no_number_iff.mp hnumber
    simp only [hnumber, not_false_eq_true, true_and, false_and, or_false]
    obtain ⟨path', query', rest', hmore⟩ := exists_splits more
    cases query with
    | none =>
        obtain ⟨-, hquestion⟩ := h.no_marks_iff.mpr ⟨rfl, rfl⟩
        have hne : path' ≠ [] := by
          rintro rfl
          cases hmore.path_head hslash
        obtain ⟨-, hsent'⟩ := chars_of_splits (h.append_path hmore) ht'
        rw [hsent', sentChars_append_path_iff hmore hne]
        simp [hquestion]
    | some q =>
        have hquestion : '?' ∈ cs := by
          rw [h.eq]
          simp [queryChars]
        obtain ⟨-, hsent'⟩ := chars_of_splits (h.append_query hmore) ht'
        rw [hsent']
        simpa [hquestion] using sentChars_append_query_ne h hmore hslash

end Target

end Http

end SignedPayments
