import SignedPayments.Url.Path

/-!
# SignedPayments.Proofs.Url.Path

Which parts of a url are written as they were read.

* Encoding writes only characters that it keeps. So it keeps a part exactly if all of its
  characters are plain (`Url.percentEncode_eq_self_iff`).
* Resolving a path that has dots makes it shorter, and resolving another one keeps its
  segments. So a path of the web is kept exactly if its characters are plain, none of them
  is a backslash, and none of its segments stands for dots (`Url.resolvePath_eq_iff`).
-/

namespace SignedPayments

namespace Url

/-! ### Encoding -/

/-- Characters that a part of a url keeps. -/
def IsPlain (special : List Char) (c : Char) : Prop := isNeverPlain c = false ∧ c ∉ special

instance (special : List Char) (c : Char) : Decidable (IsPlain special c) :=
  inferInstanceAs (Decidable (_ ∧ _))

section

variable {special cs : List Char} {c : Char} {b : UInt8}

/-- The characters that encoding writes. -/
def codeChars : List Char := "%0123456789ABCDEF".toList

theorem mem_codeChars_of_percentByte (h : c ∈ percentByte b) : c ∈ codeChars := by
  have hdigit : ∀ n < 16, (Hex.digit n).toUpper ∈ codeChars := by decide
  have hb := b.toNat_lt
  simp only [percentByte, List.mem_cons, List.not_mem_nil, or_false] at h
  rcases h with rfl | rfl | rfl
  · decide
  · exact hdigit _ (by omega)
  · exact hdigit _ (by omega)

/-- Encoding writes its own characters, and those that it keeps. -/
theorem mem_percentEncode (h : c ∈ percentEncode special cs) :
    c ∈ codeChars ∨ c ∈ cs ∧ IsPlain special c := by
  obtain ⟨d, hd, hc⟩ := List.mem_flatMap.mp h
  unfold percentChar at hc
  split at hc
  · obtain ⟨b, -, hc⟩ := List.mem_flatMap.mp hc
    exact .inl (mem_codeChars_of_percentByte hc)
  · next hplain =>
    obtain rfl := List.mem_singleton.mp hc
    exact .inr ⟨hd, by simpa [IsPlain] using hplain⟩

theorem percentEncode_of_plain (h : ∀ c ∈ cs, IsPlain special c) : percentEncode special cs = cs := by
  induction cs with
  | nil => rfl
  | cons c cs ih =>
      obtain ⟨hplain, hspecial⟩ := h c List.mem_cons_self
      have hc : percentChar special c = [c] := by simp [percentChar, hplain, hspecial]
      have hcs := ih fun d hd => h d (List.mem_cons_of_mem c hd)
      show percentChar special c ++ percentEncode special cs = c :: cs
      rw [hc, hcs]
      rfl

/-- Encoding keeps exactly what is plain, if its own characters are. -/
theorem percentEncode_eq_self_iff (hcode : ∀ c ∈ codeChars, IsPlain special c) :
    percentEncode special cs = cs ↔ ∀ c ∈ cs, IsPlain special c := by
  constructor
  · intro h c hc
    rw [← h] at hc
    rcases mem_percentEncode hc with hc | hc
    · exact hcode c hc
    · exact hc.2
  · exact percentEncode_of_plain

theorem isPlain_codeChars_query : ∀ c ∈ codeChars, IsPlain webQuerySpecial c := by
  have hall : codeChars.all (IsPlain webQuerySpecial ·) = true := by decide
  exact fun c hc => of_decide_eq_true (List.all_eq_true.mp hall c hc)

end

/-! ### Segments -/

section

variable {p q : Char → Bool} {cs : List Char}

theorem piecesBy_congr (h : ∀ c ∈ cs, p c = q c) : piecesBy p cs = piecesBy q cs := by
  induction cs with
  | nil => rfl
  | cons c cs ih =>
      have hcs := ih fun d hd => h d (List.mem_cons_of_mem c hd)
      simp only [piecesBy, h c List.mem_cons_self, hcs]

theorem piecesBy_ne_nil (p : Char → Bool) (cs : List Char) : piecesBy p cs ≠ [] := by
  cases cs with
  | nil => simp [piecesBy]
  | cons c cs =>
      unfold piecesBy
      split
      · simp
      · split <;> simp

/-- A piece has characters of the text, and no separator. -/
theorem mem_of_mem_piecesBy {piece : List Char} (hpiece : piece ∈ piecesBy p cs) :
    ∀ c ∈ piece, c ∈ cs ∧ p c = false := by
  induction cs generalizing piece with
  | nil =>
      obtain rfl : piece = [] := by simpa [piecesBy] using hpiece
      simp
  | cons d cs ih =>
      have hlift : ∀ piece ∈ piecesBy p cs, ∀ c ∈ piece, c ∈ d :: cs ∧ p c = false :=
        fun piece hpiece c hc => ⟨List.mem_cons_of_mem d (ih hpiece c hc).1, (ih hpiece c hc).2⟩
      unfold piecesBy at hpiece
      split at hpiece
      · rcases List.mem_cons.mp hpiece with rfl | hpiece
        · simp
        · exact hlift piece hpiece
      · next hd =>
        have hd' : p d = false := by simpa using hd
        cases hpieces : piecesBy p cs with
        | nil => exact absurd hpieces (piecesBy_ne_nil p cs)
        | cons first more =>
            rw [hpieces] at hpiece hlift
            rcases List.mem_cons.mp hpiece with rfl | hpiece
            · intro c hc
              rcases List.mem_cons.mp hc with rfl | hc
              · exact ⟨List.mem_cons_self, hd'⟩
              · exact hlift first List.mem_cons_self c hc
            · exact hlift piece (List.mem_cons_of_mem first hpiece)

/-- The segments of a path put it together again. -/
theorem segmentsChars_pieces (cs : List Char) : segmentsChars (pieces '/' cs) = '/' :: cs := by
  unfold pieces
  induction cs with
  | nil => rfl
  | cons c cs ih =>
      unfold piecesBy
      by_cases hc : c = '/'
      · subst hc
        simp only [decide_true, if_true]
        show '/' :: segmentsChars (piecesBy (· = '/') cs) = _
        rw [ih]
      · simp only [hc, decide_false, Bool.false_eq_true, if_false]
        cases hpieces : piecesBy (· = '/') cs with
        | nil => exact absurd hpieces (piecesBy_ne_nil _ cs)
        | cons first more =>
            rw [hpieces] at ih
            have hrest : first ++ segmentsChars more = cs := List.tail_eq_of_cons_eq ih
            show '/' :: c :: (first ++ segmentsChars more) = _
            rw [hrest]

end

/-! ### Dots -/

/-- Whether a segment stands for its own place or for the one above. -/
def IsDots (segment : List Char) : Prop := isSingleDot segment = true ∨ isDoubleDot segment = true

instance (segment : List Char) : Decidable (IsDots segment) := inferInstanceAs (Decidable (_ ∨ _))

section

variable {segment : List Char} {above segments : List (List Char)}

/-- Dots are characters. -/
theorem IsDots.length_pos (h : IsDots segment) : 0 < segment.length := by
  cases segment with
  | nil => exact absurd h (by decide)
  | cons c segment => exact Nat.succ_pos _

theorem segmentsChars_cons (segment : List Char) (segments : List (List Char)) :
    segmentsChars (segment :: segments) = '/' :: (segment ++ segmentsChars segments) := rfl

theorem length_segmentsChars_cons (segment : List Char) (segments : List (List Char)) :
    (segmentsChars (segment :: segments)).length =
      segment.length + (segmentsChars segments).length + 1 := by
  rw [segmentsChars_cons, List.length_cons, List.length_append]

theorem length_segmentsChars_reverse (segments : List (List Char)) :
    (segmentsChars segments.reverse).length = (segmentsChars segments).length := by
  simp [segmentsChars, List.length_flatMap, List.map_reverse, List.sum_reverse]

theorem enter_eq (above : List (List Char)) (segment : List Char) :
    enter false above segment = segment :: above := rfl

/-- Going up takes at most one segment away. -/
theorem ascend_cases (above : List (List Char)) : ascend above = above ∨ ascend above = above.tail := by
  cases above with
  | nil => exact .inl rfl
  | cons segment above =>
      by_cases hdrive : isDrive segment = true
      · exact .inl (if_pos hdrive)
      · exact .inr (if_neg hdrive)

theorem length_ascend_le (above : List (List Char)) :
    (segmentsChars (ascend above)).length ≤ (segmentsChars above).length := by
  rcases ascend_cases above with h | h
  · exact Nat.le_of_eq (congrArg (List.length ∘ segmentsChars) h)
  · rw [h]
    cases above with
    | nil => exact Nat.le_refl _
    | cons segment above =>
        rw [length_segmentsChars_cons, List.tail_cons]
        omega

/-- Without dots, all segments are added. -/
theorem descend_of_no_dots (h : ∀ segment ∈ segments, ¬IsDots segment) :
    descend false above segments = segments.reverse ++ above := by
  fun_induction descend false above segments with
  | case1 above => rfl
  | case2 above last hdots => exact absurd (.inr hdots) (h last List.mem_cons_self)
  | case3 above last hdouble hdots => exact absurd (.inl hdots) (h last List.mem_cons_self)
  | case4 above last hdouble hsingle => rfl
  | case5 above segment rest hne hdots ih => exact absurd (.inr hdots) (h segment List.mem_cons_self)
  | case6 above segment rest hne hdouble hdots ih =>
      exact absurd (.inl hdots) (h segment List.mem_cons_self)
  | case7 above segment rest hne hdouble hsingle ih =>
      rw [ih fun s hs => h s (List.mem_cons_of_mem segment hs), enter_eq]
      simp

/-- Adding segments makes a path longer by no more than these, and by less where some of
them are dots. -/
theorem length_descend_le (above segments : List (List Char)) :
    (segmentsChars (descend false above segments)).length + segments.countP (IsDots ·) ≤
      (segmentsChars above).length + (segmentsChars segments).length := by
  have hdots {segment : List Char} (rest : List (List Char)) (h : IsDots segment) :
      (segment :: rest).countP (IsDots ·) = rest.countP (IsDots ·) + 1 :=
    List.countP_cons_of_pos (decide_eq_true h)
  have hplain {segment : List Char} (rest : List (List Char)) (h : ¬IsDots segment) :
      (segment :: rest).countP (IsDots ·) = rest.countP (IsDots ·) :=
    List.countP_cons_of_neg (by simpa using h)
  have hascend := length_ascend_le
  fun_induction descend false above segments with
  | case1 above => exact Nat.le_refl _
  | case2 above last hdouble =>
      have hlast : IsDots last := .inr hdouble
      have hpos := hlast.length_pos
      have hup := hascend above
      rw [hdots [] hlast, List.countP_nil, length_segmentsChars_cons, length_segmentsChars_cons]
      simp only [List.length_nil]
      omega
  | case3 above last hdouble hsingle =>
      have hlast : IsDots last := .inl hsingle
      have hpos := hlast.length_pos
      rw [hdots [] hlast, List.countP_nil, length_segmentsChars_cons, length_segmentsChars_cons]
      simp only [List.length_nil]
      omega
  | case4 above last hdouble hsingle =>
      have hlast : ¬IsDots last := not_or.mpr ⟨hsingle, hdouble⟩
      rw [hplain [] hlast, List.countP_nil, enter_eq, length_segmentsChars_cons,
        length_segmentsChars_cons]
      omega
  | case5 above segment rest hne hdouble ih =>
      have hup := hascend above
      rw [hdots rest (.inr hdouble), length_segmentsChars_cons]
      omega
  | case6 above segment rest hne hdouble hsingle ih =>
      rw [hdots rest (.inl hsingle), length_segmentsChars_cons]
      omega
  | case7 above segment rest hne hdouble hsingle ih =>
      rw [enter_eq, length_segmentsChars_cons] at ih
      rw [enter_eq, hplain rest (not_or.mpr ⟨hsingle, hdouble⟩), length_segmentsChars_cons]
      omega

/-- What holds of all segments and of an empty one holds of those that are left. -/
theorem forall_descend {P : List Char → Prop} (hempty : P []) (habove : ∀ s ∈ above, P s)
    (hsegments : ∀ s ∈ segments, P s) : ∀ s ∈ descend false above segments, P s := by
  have hascend {above : List (List Char)} (h : ∀ s ∈ above, P s) : ∀ s ∈ ascend above, P s := by
    intro s hs
    rcases ascend_cases above with h' | h'
    · exact h s (h' ▸ hs)
    · exact h s (List.mem_of_mem_tail (h' ▸ hs))
  fun_induction descend false above segments with
  | case1 above => exact habove
  | case2 above last hdouble => exact List.forall_mem_cons.mpr ⟨hempty, hascend habove⟩
  | case3 above last hdouble hsingle => exact List.forall_mem_cons.mpr ⟨hempty, habove⟩
  | case4 above last hdouble hsingle =>
      exact List.forall_mem_cons.mpr ⟨hsegments last List.mem_cons_self, habove⟩
  | case5 above segment rest hne hdouble ih =>
      exact ih (hascend habove) (List.forall_mem_cons.mp hsegments).2
  | case6 above segment rest hne hdouble hsingle ih =>
      exact ih habove (List.forall_mem_cons.mp hsegments).2
  | case7 above segment rest hne hdouble hsingle ih =>
      obtain ⟨hsegment, hrest⟩ := List.forall_mem_cons.mp hsegments
      exact ih (List.forall_mem_cons.mpr ⟨hsegment, habove⟩) hrest

end

/-! ### Paths -/

/-- Characters that the path of a url of the web keeps. -/
def IsPathPlain (c : Char) : Prop := IsPlain pathSpecial c ∧ c ≠ '\\'

instance (c : Char) : Decidable (IsPathPlain c) := inferInstanceAs (Decidable (_ ∧ _))

/-- Paths that a url of the web keeps: their characters are kept, and none of their segments
stands for dots. -/
structure KeepsPath (path : List Char) : Prop where
  plain : ∀ c ∈ path, IsPathPlain c
  no_dots : ∀ segment ∈ pieces '/' path, ¬IsDots segment

section

variable {cs : List Char}

theorem keepsPath_cons_iff :
    KeepsPath ('/' :: cs) ↔
      (∀ c ∈ cs, IsPathPlain c) ∧ ∀ segment ∈ pieces '/' cs, ¬IsDots segment := by
  have hpieces : pieces '/' ('/' :: cs) = [] :: pieces '/' cs := rfl
  constructor
  · intro h
    have hdots := h.no_dots
    rw [hpieces] at hdots
    exact ⟨(List.forall_mem_cons.mp h.plain).2, (List.forall_mem_cons.mp hdots).2⟩
  · intro h
    refine ⟨List.forall_mem_cons.mpr ⟨by decide, h.1⟩, ?_⟩
    rw [hpieces]
    exact List.forall_mem_cons.mpr ⟨by decide, h.2⟩

theorem isPathPlain_of_mem_codeChars : ∀ c ∈ codeChars, IsPathPlain c := by
  have hall : codeChars.all (IsPathPlain ·) = true := by decide
  exact fun c hc => of_decide_eq_true (List.all_eq_true.mp hall c hc)

/-- A path that is resolved has only characters that are kept. -/
theorem isPathPlain_of_mem_resolvePath : ∀ c ∈ resolvePath true cs, IsPathPlain c := by
  have hsegments : ∀ segment ∈ (piecesBy (isSlash true) cs).map (percentEncode pathSpecial),
      ∀ c ∈ segment, IsPathPlain c := by
    intro segment hsegment c hc
    obtain ⟨piece, hpiece, rfl⟩ := List.mem_map.mp hsegment
    rcases mem_percentEncode hc with hc | ⟨hmem, hplain⟩
    · exact isPathPlain_of_mem_codeChars c hc
    · refine ⟨hplain, fun hback => ?_⟩
      have hslash := (mem_of_mem_piecesBy hpiece c hmem).2
      simp [hback, isSlash] at hslash
  intro c hc
  obtain ⟨segment, hsegment, hc⟩ := List.mem_flatMap.mp hc
  rcases List.mem_cons.mp hc with rfl | hc
  · decide
  · exact forall_descend (P := fun s => ∀ c ∈ s, IsPathPlain c) (by simp) (by simp) hsegments segment
      (List.mem_reverse.mp hsegment) c hc

/-- Where all characters are kept, the segments are the pieces between slashes. -/
theorem resolvePath_of_plain (h : ∀ c ∈ cs, IsPathPlain c) :
    resolvePath true cs = segmentsChars (descend false [] (pieces '/' cs)).reverse := by
  have hslash : ∀ c ∈ cs, isSlash true c = decide (c = '/') := by
    intro c hc
    simp [isSlash, (h c hc).2]
  have hencode : (pieces '/' cs).map (percentEncode pathSpecial) = pieces '/' cs := by
    refine (List.map_congr_left fun piece hpiece => ?_).trans (List.map_id _)
    exact percentEncode_of_plain fun c hc => (h c (mem_of_mem_piecesBy hpiece c hc).1).1
  unfold resolvePath
  dsimp only
  rw [piecesBy_congr hslash, ← pieces, hencode]

/-- A path of the web is kept exactly if its characters are, and its segments are no
dots. -/
theorem resolvePath_eq_iff : resolvePath true cs = '/' :: cs ↔ KeepsPath ('/' :: cs) := by
  rw [keepsPath_cons_iff]
  constructor
  · intro h
    have hplain : ∀ c ∈ cs, IsPathPlain c := by
      intro c hc
      exact isPathPlain_of_mem_resolvePath c (h ▸ List.mem_cons_of_mem '/' hc)
    refine ⟨hplain, ?_⟩
    -- Dots would have made the path shorter.
    have hkept : (segmentsChars (descend false [] (pieces '/' cs))).length =
        (segmentsChars (pieces '/' cs)).length := by
      rw [← length_segmentsChars_reverse, ← resolvePath_of_plain hplain, h, segmentsChars_pieces]
    have hlength := length_descend_le [] (pieces '/' cs)
    have hnil : (segmentsChars []).length = 0 := rfl
    have hcount : (pieces '/' cs).countP (IsDots ·) = 0 := by omega
    simpa using List.countP_eq_zero.mp hcount
  · rintro ⟨hplain, hdots⟩
    rw [resolvePath_of_plain hplain, descend_of_no_dots hdots, List.append_nil,
      List.reverse_reverse, segmentsChars_pieces]

end

end Url

end SignedPayments
