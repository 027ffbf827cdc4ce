import SignedPayments.Text.Utf8

/-!
# SignedPayments.Proofs.Text.Utf8

Strict reading takes what writing gives and nothing else: bytes that are read as
characters are those characters in UTF-8 (`encode_of_decode?`), and every text is read
from its bytes (`decode?_encode`). So a text that was checked as bytes can be reasoned
about as characters, and the other way round.

The work is in one character, in each direction (`encodeChar_of_head`,
`head_encodeChar`). The ranges that a first byte announces for the second are what keeps
the number of the character out of the overlong forms and out of the surrogates, and
writing chooses the same length again.
-/

namespace SignedPayments

namespace Utf8

/-! ### Characters as lists of bytes -/

@[simp] theorem encode_nil : encode [] = [] := rfl

@[simp] theorem encode_cons (c : Char) (cs : List Char) :
    encode (c :: cs) = String.utf8EncodeChar c ++ encode cs := rfl

@[simp] theorem encode_append (xs ys : List Char) : encode (xs ++ ys) = encode xs ++ encode ys :=
  List.flatMap_append

theorem toNat_ofNat {n : Nat} (h : n.isValidChar) : (Char.ofNat n).val.toNat = n := by
  rw [Char.ofNat, dif_pos h]
  rfl

/-- A byte is known by its number. -/
theorem ofNat_eq {n : Nat} {b : UInt8} (h : n = b.toNat) : UInt8.ofNat n = b := by
  rw [h, UInt8.ofNat_toNat]

theorem encodeChar_one {a : UInt8} (ha : a.toNat < 0x80) :
    String.utf8EncodeChar (Char.ofNat (codePoint a [])) = [a] := by
  have hn : codePoint a [] = a.toNat := rfl
  have hvalid : (codePoint a []).isValidChar := Or.inl (by omega)
  rw [String.utf8EncodeChar, toNat_ofNat hvalid, if_pos (by omega), ofNat_eq hn]

theorem encodeChar_two {a b : UInt8} (ha : 0xc2 ≤ a.toNat) (ha' : a.toNat < 0xe0)
    (hb : 0x80 ≤ b.toNat) (hb' : b.toNat ≤ 0xbf) :
    String.utf8EncodeChar (Char.ofNat (codePoint a [b])) = [a, b] := by
  have hn : codePoint a [b] = 64 * (a.toNat - 0xc0) + (b.toNat - 0x80) := rfl
  have hvalid : (codePoint a [b]).isValidChar := Or.inl (by omega)
  rw [String.utf8EncodeChar, toNat_ofNat hvalid, if_neg (by omega), if_pos (by omega),
    ofNat_eq (b := a) (by omega), ofNat_eq (b := b) (by omega)]

/-- After `0xe0` a smaller second byte would give an overlong form, after `0xed` a
larger one a surrogate. -/
theorem encodeChar_three {a b c : UInt8} (ha : 0xe0 ≤ a.toNat) (ha' : a.toNat < 0xf0)
    (hb : 0x80 ≤ b.toNat) (hb' : b.toNat ≤ 0xbf) (hc : 0x80 ≤ c.toNat) (hc' : c.toNat ≤ 0xbf)
    (hlong : a.toNat = 0xe0 → 0xa0 ≤ b.toNat) (hsurrogate : a.toNat = 0xed → b.toNat ≤ 0x9f) :
    String.utf8EncodeChar (Char.ofNat (codePoint a [b, c])) = [a, b, c] := by
  have hn : codePoint a [b, c] =
      64 * (64 * (a.toNat - 0xe0) + (b.toNat - 0x80)) + (c.toNat - 0x80) := rfl
  have hvalid : (codePoint a [b, c]).isValidChar := by
    simp only [Nat.isValidChar, hn]
    omega
  rw [String.utf8EncodeChar, toNat_ofNat hvalid, if_neg (by omega), if_neg (by omega),
    if_pos (by omega), ofNat_eq (b := a) (by omega), ofNat_eq (b := b) (by omega),
    ofNat_eq (b := c) (by omega)]

/-- After `0xf0` a smaller second byte would give an overlong form, after `0xf4` a
larger one a number beyond the last character. -/
theorem encodeChar_four {a b c d : UInt8} (ha : 0xf0 ≤ a.toNat) (ha' : a.toNat ≤ 0xf4)
    (hb : 0x80 ≤ b.toNat) (hb' : b.toNat ≤ 0xbf) (hc : 0x80 ≤ c.toNat) (hc' : c.toNat ≤ 0xbf)
    (hd : 0x80 ≤ d.toNat) (hd' : d.toNat ≤ 0xbf)
    (hlong : a.toNat = 0xf0 → 0x90 ≤ b.toNat) (hlast : a.toNat = 0xf4 → b.toNat ≤ 0x8f) :
    String.utf8EncodeChar (Char.ofNat (codePoint a [b, c, d])) = [a, b, c, d] := by
  have hn : codePoint a [b, c, d] =
      64 * (64 * (64 * (a.toNat - 0xf0) + (b.toNat - 0x80)) + (c.toNat - 0x80)) +
        (d.toNat - 0x80) := rfl
  have hvalid : (codePoint a [b, c, d]).isValidChar := by
    simp only [Nat.isValidChar, hn]
    omega
  rw [String.utf8EncodeChar, toNat_ofNat hvalid, if_neg (by omega), if_neg (by omega),
    if_neg (by omega), ofNat_eq (b := a) (by omega), ofNat_eq (b := b) (by omega),
    ofNat_eq (b := c) (by omega), ofNat_eq (b := d) (by omega)]

/-! ### Characters and their bytes -/

theorem encodeChar_ascii {c : Char} (hc : c.toNat < 0x80) :
    String.utf8EncodeChar c = [UInt8.ofNat c.toNat] := by
  rw [String.utf8EncodeChar, if_pos (by rw [Char.toNat_val]; omega)]
  rfl

/-- The bytes of a character beyond ASCII are beyond ASCII themselves. -/
theorem le_of_mem_encodeChar {c : Char} {b : UInt8} (hc : 0x80 ≤ c.toNat)
    (hb : b ∈ String.utf8EncodeChar c) : 0x80 ≤ b.toNat := by
  rw [← Char.toNat_val] at hc
  rw [String.utf8EncodeChar, if_neg (by omega)] at hb
  split at hb
  · simp only [List.mem_cons, List.not_mem_nil, or_false] at hb
    rcases hb with rfl | rfl <;> rw [UInt8.toNat_ofNat'] <;> omega
  split at hb
  · simp only [List.mem_cons, List.not_mem_nil, or_false] at hb
    rcases hb with rfl | rfl | rfl <;> rw [UInt8.toNat_ofNat'] <;> omega
  · simp only [List.mem_cons, List.not_mem_nil, or_false] at hb
    rcases hb with rfl | rfl | rfl | rfl <;> rw [UInt8.toNat_ofNat'] <;> omega

/-- The first byte of a text is a byte of its first character. -/
theorem mem_head?_encode {cs : List Char} {b : UInt8} (hb : b ∈ (encode cs).head?) :
    ∃ c ∈ cs.head?, b ∈ String.utf8EncodeChar c := by
  cases cs with
  | nil => simp at hb
  | cons c cs =>
      refine ⟨c, rfl, ?_⟩
      cases hbytes : String.utf8EncodeChar c with
      | nil => exact absurd hbytes String.utf8EncodeChar_ne_nil
      | cons d ds =>
          rw [encode_cons, hbytes] at hb
          simp only [List.cons_append, List.head?_cons, Option.mem_def, Option.some.injEq] at hb
          simp [hb]

/-- The last byte of a text is a byte of its last character. -/
theorem mem_getLast?_encode {cs : List Char} {b : UInt8} (hb : b ∈ (encode cs).getLast?) :
    ∃ c ∈ cs.getLast?, b ∈ String.utf8EncodeChar c := by
  cases hcs : cs.getLast? with
  | none =>
      rw [List.getLast?_eq_none_iff] at hcs
      simp [hcs] at hb
  | some c =>
      obtain ⟨front, rfl⟩ := List.getLast?_eq_some_iff.mp hcs
      refine ⟨c, rfl, ?_⟩
      rw [encode_append, encode_cons, encode_nil, List.append_nil, List.getLast?_append] at hb
      cases hlast : (String.utf8EncodeChar c).getLast? with
      | none => exact absurd (List.getLast?_eq_none_iff.mp hlast) String.utf8EncodeChar_ne_nil
      | some d =>
          rw [hlast, Option.some_or, Option.mem_def, Option.some.injEq] at hb
          exact hb ▸ List.mem_of_getLast? hlast

/-! ### What a first byte announces -/

/-- One announced byte that follows stands in its range, and the others after it. -/
theorem Lead.follow_succ {n k : Nat} {least most : UInt8} {rest : Bytes}
    (h : Lead.follow ⟨n + 1, least, most⟩ rest = k + 1) :
    ∃ b more, rest = b :: more ∧ least.toNat ≤ b.toNat ∧ b.toNat ≤ most.toNat ∧
      Lead.follow ⟨n, 0x80, 0xbf⟩ more = k := by
  cases rest with
  | nil => simp [Lead.follow] at h
  | cons b more =>
      simp only [Lead.follow] at h
      split at h
      · next hb =>
        rw [UInt8.le_iff_toNat_le, UInt8.le_iff_toNat_le] at hb
        exact ⟨b, more, rfl, hb.1, hb.2, by omega⟩
      · simp at h

/-- The bytes that can start a character, by how many more they announce. -/
theorem lead?_cases {b : UInt8} {lead : Lead} (h : lead? b = some lead) :
    (b.toNat < 0x80 ∧ lead.more = 0) ∨
    (0xc2 ≤ b.toNat ∧ b.toNat < 0xe0 ∧ lead = ⟨1, 0x80, 0xbf⟩) ∨
    (0xe0 ≤ b.toNat ∧ b.toNat < 0xf0 ∧ lead.more = 2 ∧ 0x80 ≤ lead.least.toNat ∧
      lead.most.toNat ≤ 0xbf ∧ (b.toNat = 0xe0 → 0xa0 ≤ lead.least.toNat) ∧
      (b.toNat = 0xed → lead.most.toNat ≤ 0x9f)) ∨
    (0xf0 ≤ b.toNat ∧ b.toNat ≤ 0xf4 ∧ lead.more = 3 ∧ 0x80 ≤ lead.least.toNat ∧
      lead.most.toNat ≤ 0xbf ∧ (b.toNat = 0xf0 → 0x90 ≤ lead.least.toNat) ∧
      (b.toNat = 0xf4 → lead.most.toNat ≤ 0x8f)) := by
  simp only [lead?, UInt8.lt_iff_toNat_lt, ← UInt8.toNat_inj, UInt8.reduceToNat] at h
  repeat' split at h
  all_goals cases h
  all_goals
    simp
    omega

/-! ### One character, and all of them -/

/-- The character at the start of bytes is written as the bytes that it takes. -/
theorem encodeChar_of_head {b : UInt8} {rest : Bytes} {c : Char} {size : Nat}
    (h : head b rest = .char c size) :
    String.utf8EncodeChar c ++ rest.drop (size - 1) = b :: rest := by
  unfold head at h
  cases hlead : lead? b with
  | none => simp [hlead] at h
  | some lead =>
      obtain ⟨more, least, most⟩ := lead
      simp only [hlead] at h
      split at h
      case isFalse => simp at h
      case isTrue hfollow =>
        simp only [Head.char.injEq] at h
        obtain ⟨rfl, rfl⟩ := h
        rw [hfollow, Nat.add_sub_cancel]
        rcases lead?_cases hlead with ⟨hb, rfl⟩ | ⟨hb, hb', heq⟩ |
            ⟨hb, hb', rfl, hl, hm, hlong, hsurrogate⟩ | ⟨hb, hb', rfl, hl, hm, hlong, hlast⟩
        · simp [encodeChar_one hb]
        · cases heq
          obtain ⟨c, rest, rfl, hc, hc', -⟩ := Lead.follow_succ hfollow
          simp [encodeChar_two hb hb' hc hc']
        · obtain ⟨c, rest, rfl, hc, hc', h⟩ := Lead.follow_succ hfollow
          obtain ⟨d, rest, rfl, hd, hd', -⟩ := Lead.follow_succ h
          have henc := encodeChar_three hb hb' (Nat.le_trans hl hc) (Nat.le_trans hc' hm) hd hd'
            (fun e => Nat.le_trans (hlong e) hc) (fun e => Nat.le_trans hc' (hsurrogate e))
          simp [henc]
        · obtain ⟨c, rest, rfl, hc, hc', h⟩ := Lead.follow_succ hfollow
          obtain ⟨d, rest, rfl, hd, hd', h⟩ := Lead.follow_succ h
          obtain ⟨e, rest, rfl, he, he', -⟩ := Lead.follow_succ h
          have henc := encodeChar_four hb hb' (Nat.le_trans hl hc) (Nat.le_trans hc' hm) hd hd'
            he he' (fun e => Nat.le_trans (hlong e) hc) (fun e => Nat.le_trans hc' (hlast e))
          simp [henc]

/-- What strict reading takes, writing gives back. -/
theorem encode_of_decode? {bytes : Bytes} {cs : List Char} (h : decode? bytes = some cs) :
    encode cs = bytes := by
  fun_induction decode? bytes generalizing cs with
  | case1 =>
      cases h
      rfl
  | case2 b rest c size hhead ih =>
      obtain ⟨ds, hds, rfl⟩ := Option.map_eq_some_iff.mp h
      rw [encode_cons, ih hds, encodeChar_of_head hhead]
  | case3 => cases h

/-! ### Reading what was written -/

/-- A byte in the range that is announced for it counts, and then those after it. -/
theorem Lead.follow_cons {n : Nat} {least most b : UInt8} {rest : Bytes}
    (hl : least.toNat ≤ b.toNat) (hm : b.toNat ≤ most.toNat) :
    Lead.follow ⟨n + 1, least, most⟩ (b :: rest) = Lead.follow ⟨n, 0x80, 0xbf⟩ rest + 1 := by
  rw [Lead.follow, if_pos ⟨UInt8.le_iff_toNat_le.mpr hl, UInt8.le_iff_toNat_le.mpr hm⟩]

theorem lead?_one {b : UInt8} (h : b.toNat < 0x80) : lead? b = some ⟨0, 0x80, 0xbf⟩ := by
  rw [lead?, if_pos (UInt8.lt_iff_toNat_lt.mpr h)]

theorem lead?_two {b : UInt8} (h : 0xc2 ≤ b.toNat) (h' : b.toNat < 0xe0) :
    lead? b = some ⟨1, 0x80, 0xbf⟩ := by
  simp only [lead?, UInt8.lt_iff_toNat_lt, ← UInt8.toNat_inj, UInt8.reduceToNat]
  rw [if_neg (by omega), if_neg (by omega), if_pos h']

/-- The second byte has its whole range, but for overlong forms and surrogates. -/
theorem lead?_three {b : UInt8} (h : 0xe0 ≤ b.toNat) (h' : b.toNat < 0xf0) :
    ∃ least most, lead? b = some ⟨2, least, most⟩ ∧ ∀ second, 0x80 ≤ second → second ≤ 0xbf →
      (b.toNat = 0xe0 → 0xa0 ≤ second) → (b.toNat = 0xed → second ≤ 0x9f) →
      least.toNat ≤ second ∧ second ≤ most.toNat := by
  simp only [lead?, UInt8.lt_iff_toNat_lt, ← UInt8.toNat_inj, UInt8.reduceToNat]
  rw [if_neg (by omega), if_neg (by omega), if_neg (by omega)]
  by_cases hlow : b.toNat = 0xe0
  · rw [if_pos hlow]
    exact ⟨0xa0, 0xbf, rfl, fun second _ hm hlong _ => ⟨hlong hlow, hm⟩⟩
  by_cases hhigh : b.toNat = 0xed
  · rw [if_neg hlow, if_pos hhigh]
    exact ⟨0x80, 0x9f, rfl, fun second hl _ _ hsurrogate => ⟨hl, hsurrogate hhigh⟩⟩
  · rw [if_neg hlow, if_neg hhigh, if_pos h']
    exact ⟨0x80, 0xbf, rfl, fun second hl hm _ _ => ⟨hl, hm⟩⟩

/-- The second byte has its whole range, but for overlong forms and numbers beyond the last
character. -/
theorem lead?_four {b : UInt8} (h : 0xf0 ≤ b.toNat) (h' : b.toNat ≤ 0xf4) :
    ∃ least most, lead? b = some ⟨3, least, most⟩ ∧ ∀ second, 0x80 ≤ second → second ≤ 0xbf →
      (b.toNat = 0xf0 → 0x90 ≤ second) → (b.toNat = 0xf4 → second ≤ 0x8f) →
      least.toNat ≤ second ∧ second ≤ most.toNat := by
  simp only [lead?, UInt8.lt_iff_toNat_lt, ← UInt8.toNat_inj, UInt8.reduceToNat]
  rw [if_neg (by omega), if_neg (by omega), if_neg (by omega), if_neg (by omega),
    if_neg (by omega), if_neg (by omega)]
  by_cases hlow : b.toNat = 0xf0
  · rw [if_pos hlow]
    exact ⟨0x90, 0xbf, rfl, fun second _ hm hlong _ => ⟨hlong hlow, hm⟩⟩
  by_cases hhigh : b.toNat = 0xf4
  · rw [if_neg hlow, if_neg (by omega), if_pos hhigh]
    exact ⟨0x80, 0x8f, rfl, fun second hl _ _ hlast => ⟨hl, hlast hhigh⟩⟩
  · rw [if_neg hlow, if_pos (by omega)]
    exact ⟨0x80, 0xbf, rfl, fun second hl hm _ _ => ⟨hl, hm⟩⟩

/-- Where all announced bytes follow, they are read as one character. -/
theorem head_eq_char {b : UInt8} {rest : Bytes} {lead : Lead} (hlead : lead? b = some lead)
    (hfollow : lead.follow rest = lead.more) :
    head b rest = .char (Char.ofNat (codePoint b (rest.take lead.more))) (lead.more + 1) := by
  simp only [head, hlead, hfollow, if_true]

/-- An announced byte that needs no special range. -/
theorem Lead.follow_more {n : Nat} {b : UInt8} {rest : Bytes} (hl : 0x80 ≤ b.toNat)
    (hm : b.toNat ≤ 0xbf) :
    Lead.follow ⟨n + 1, 0x80, 0xbf⟩ (b :: rest) = Lead.follow ⟨n, 0x80, 0xbf⟩ rest + 1 :=
  follow_cons hl hm

theorem Lead.follow_zero (least most : UInt8) (rest : Bytes) :
    Lead.follow ⟨0, least, most⟩ rest = 0 := by
  cases rest <;> rfl

theorem head_one {a : UInt8} (ha : a.toNat < 0x80) (rest : Bytes) :
    head a rest = .char (Char.ofNat (codePoint a [])) 1 :=
  head_eq_char (lead?_one ha) (Lead.follow_zero ..)

theorem head_two {a b : UInt8} (ha : 0xc2 ≤ a.toNat) (ha' : a.toNat < 0xe0)
    (hb : 0x80 ≤ b.toNat) (hb' : b.toNat ≤ 0xbf) (rest : Bytes) :
    head a (b :: rest) = .char (Char.ofNat (codePoint a [b])) 2 := by
  rw [head_eq_char (lead?_two ha ha') (by rw [Lead.follow_more hb hb', Lead.follow_zero])]
  simp only [List.take_succ_cons, List.take_zero]

theorem head_three {a b c : UInt8} (ha : 0xe0 ≤ a.toNat) (ha' : a.toNat < 0xf0)
    (hb : 0x80 ≤ b.toNat) (hb' : b.toNat ≤ 0xbf) (hc : 0x80 ≤ c.toNat) (hc' : c.toNat ≤ 0xbf)
    (hlong : a.toNat = 0xe0 → 0xa0 ≤ b.toNat) (hsurrogate : a.toNat = 0xed → b.toNat ≤ 0x9f)
    (rest : Bytes) :
    head a (b :: c :: rest) = .char (Char.ofNat (codePoint a [b, c])) 3 := by
  obtain ⟨least, most, hlead, hsecond⟩ := lead?_three ha ha'
  obtain ⟨hl, hm⟩ := hsecond b.toNat hb hb' hlong hsurrogate
  rw [head_eq_char hlead
    (by rw [Lead.follow_cons hl hm, Lead.follow_more hc hc', Lead.follow_zero])]
  simp only [List.take_succ_cons, List.take_zero]

theorem head_four {a b c d : UInt8} (ha : 0xf0 ≤ a.toNat) (ha' : a.toNat ≤ 0xf4)
    (hb : 0x80 ≤ b.toNat) (hb' : b.toNat ≤ 0xbf) (hc : 0x80 ≤ c.toNat) (hc' : c.toNat ≤ 0xbf)
    (hd : 0x80 ≤ d.toNat) (hd' : d.toNat ≤ 0xbf)
    (hlong : a.toNat = 0xf0 → 0x90 ≤ b.toNat) (hlast : a.toNat = 0xf4 → b.toNat ≤ 0x8f)
    (rest : Bytes) :
    head a (b :: c :: d :: rest) = .char (Char.ofNat (codePoint a [b, c, d])) 4 := by
  obtain ⟨least, most, hlead, hsecond⟩ := lead?_four ha ha'
  obtain ⟨hl, hm⟩ := hsecond b.toNat hb hb' hlong hlast
  rw [head_eq_char hlead (by
    rw [Lead.follow_cons hl hm, Lead.follow_more hc hc', Lead.follow_more hd hd',
      Lead.follow_zero])]
  simp only [List.take_succ_cons, List.take_zero]

/-- A byte has the number that it was made of. -/
theorem exists_toNat_eq {n : Nat} (h : n < 256) : ∃ b, UInt8.ofNat n = b ∧ b.toNat = n :=
  ⟨_, rfl, by rw [UInt8.toNat_ofNat', Nat.mod_eq_of_lt h]⟩

/-- A character stands at the start of its bytes, whatever follows them. -/
theorem head_encodeChar (c : Char) : ∃ b more, String.utf8EncodeChar c = b :: more ∧
    ∀ rest, head b (more ++ rest) = .char c (more.length + 1) := by
  have hc : ∀ n, n = c.val.toNat → Char.ofNat n = c := fun n hn => by
    rw [hn, Char.toNat_val, Char.ofNat_toNat]
  have hvalid : c.val.toNat.isValidChar := c.valid
  simp only [Nat.isValidChar] at hvalid
  rw [String.utf8EncodeChar]
  generalize c.val.toNat = v at hc hvalid ⊢
  by_cases h1 : v ≤ 0x7f
  · obtain ⟨a, ha, hav⟩ := exists_toNat_eq (show v < 256 by omega)
    have hn : codePoint a [] = a.toNat := rfl
    refine ⟨a, [], by rw [if_pos h1, ha], fun rest => ?_⟩
    rw [List.nil_append, head_one (by omega), hc _ (by omega)]
    rfl
  by_cases h2 : v ≤ 0x7ff
  · obtain ⟨a, ha, hav⟩ := exists_toNat_eq (show v / 64 % 32 + 192 < 256 by omega)
    obtain ⟨b, hb, hbv⟩ := exists_toNat_eq (show v % 64 + 128 < 256 by omega)
    have hn : codePoint a [b] = 64 * (a.toNat - 0xc0) + (b.toNat - 0x80) := rfl
    refine ⟨a, [b], by rw [if_neg h1, if_pos h2, ha, hb], fun rest => ?_⟩
    rw [List.singleton_append, head_two (by omega) (by omega) (by omega) (by omega),
      hc _ (by omega)]
    rfl
  by_cases h3 : v ≤ 0xffff
  · obtain ⟨a, ha, hav⟩ := exists_toNat_eq (show v / 4096 % 16 + 224 < 256 by omega)
    obtain ⟨b, hb, hbv⟩ := exists_toNat_eq (show v / 64 % 64 + 128 < 256 by omega)
    obtain ⟨d, hd, hdv⟩ := exists_toNat_eq (show v % 64 + 128 < 256 by omega)
    have hn : codePoint a [b, d] =
        64 * (64 * (a.toNat - 0xe0) + (b.toNat - 0x80)) + (d.toNat - 0x80) := rfl
    refine ⟨a, [b, d], by rw [if_neg h1, if_neg h2, if_pos h3, ha, hb, hd], fun rest => ?_⟩
    show head a (b :: d :: rest) = _
    rw [head_three (by omega) (by omega) (by omega) (by omega) (by omega) (by omega) (by omega)
      (by omega), hc _ (by omega)]
    rfl
  · obtain ⟨a, ha, hav⟩ := exists_toNat_eq (show v / 262144 % 8 + 240 < 256 by omega)
    obtain ⟨b, hb, hbv⟩ := exists_toNat_eq (show v / 4096 % 64 + 128 < 256 by omega)
    obtain ⟨d, hd, hdv⟩ := exists_toNat_eq (show v / 64 % 64 + 128 < 256 by omega)
    obtain ⟨e, he, hev⟩ := exists_toNat_eq (show v % 64 + 128 < 256 by omega)
    have hn : codePoint a [b, d, e] = 64 * (64 * (64 * (a.toNat - 0xf0) + (b.toNat - 0x80)) +
        (d.toNat - 0x80)) + (e.toNat - 0x80) := rfl
    refine ⟨a, [b, d, e], by rw [if_neg h1, if_neg h2, if_neg h3, ha, hb, hd, he],
      fun rest => ?_⟩
    show head a (b :: d :: e :: rest) = _
    rw [head_four (by omega) (by omega) (by omega) (by omega) (by omega) (by omega) (by omega)
      (by omega) (by omega) (by omega), hc _ (by omega)]
    rfl

/-- Strict reading takes everything that is written. -/
theorem decode?_encode (cs : List Char) : decode? (encode cs) = some cs := by
  induction cs with
  | nil => simp [decode?]
  | cons c cs ih =>
      obtain ⟨b, more, hbytes, hhead⟩ := head_encodeChar c
      rw [encode_cons, hbytes, List.cons_append, decode?, hhead]
      simp [ih]

/-- Characters are told by their bytes. -/
theorem encode_inj {cs ds : List Char} : encode cs = encode ds ↔ cs = ds := by
  constructor
  · intro h
    have hdecode := congrArg decode? h
    rw [decode?_encode, decode?_encode] at hdecode
    exact Option.some.inj hdecode
  · rintro rfl
    rfl

end Utf8

end SignedPayments
