import SignedPayments.Json.Raw
import SignedPayments.Payment
import SignedPayments.Proofs.Json.Spelled
import SignedPayments.Proofs.Text.Utf8

/-!
# SignedPayments.Proofs.Json.Ends

Where JSON texts end.

* No text goes on after a comma or a closing bracket or brace: a machine that may end where
  it stands, stops at one (`step_mark_of_missing?_eq_none`). Hence, of characters that begin
  with a text and such a mark, the text can be told (`append_mark_inj`).
* What is written has no blanks at either end, so keeping it as it was written keeps
  all of it (`trim_encode_of_solid`).
-/

namespace SignedPayments

namespace Json

/-! ### Texts before a mark -/

/-- A comma between items, members or the fields of a payload, or the end of a list or an
object. -/
def IsMark (c : Char) : Prop := c = ',' ∨ c = ']' ∨ c = '\x7d'

namespace Scan

/-- Where a text may end, nothing is open. So no mark can follow. -/
theorem step_mark_of_missing?_eq_none {s : State} {c : Char} (hc : IsMark c)
    (h : s.missing? = none) : step s (UInt8.ofNat c.toNat) = .error .trailingCharacters := by
  obtain ⟨expect, frames⟩ := s
  cases expect with
  | value | firstItem | firstKey | key | colon | string | word => simp [State.missing?] at h
  | next =>
      cases frames with
      | nil => rcases hc with rfl | rfl | rfl <;> rfl
      | cons frame _ => cases frame <;> simp [State.missing?] at h
  | number part =>
      have hend : part.mayEnd = true := by
        cases hpart : part.mayEnd with
        | true => rfl
        | false => simp [State.missing?, hpart] at h
      cases frames with
      | nil =>
          rcases hc with rfl | rfl | rfl <;>
            cases part <;> first | rfl | simp [NumberPart.mayEnd] at hend
      | cons frame _ => cases frame <;> simp [State.missing?, hend] at h

/-- A text is no beginning of a longer one with a mark after it. -/
theorem accepts_append_mark {xs : Bytes} {c : Char} (hc : IsMark c) (ys : Bytes)
    (h : accepts xs = true) : accepts (xs ++ UInt8.ofNat c.toNat :: ys) = false := by
  obtain ⟨s, hs, hmissing⟩ := accepts_iff.1 h
  have hrun : ∃ stop, run start 0 (xs ++ UInt8.ofNat c.toNat :: ys) = .error stop := by
    rw [run_append, hs]
    simp only [Except.bind, run, step_mark_of_missing?_eq_none hc hmissing]
    exact ⟨_, rfl⟩
  obtain ⟨stop, hstop⟩ := hrun
  rw [accepts, text, hstop]
  rfl

end Scan

/-- What a text has beyond another text does not begin with a mark. -/
theorem not_isMark_of_accepts {xs more : List Char} {c : Char}
    (h : Scan.accepts (Utf8.encode xs) = true)
    (hlonger : Scan.accepts (Utf8.encode (xs ++ c :: more)) = true) : ¬IsMark c := by
  intro hc
  have hascii : c.toNat < 0x80 := by rcases hc with rfl | rfl | rfl <;> decide
  have hnot := Scan.accepts_append_mark hc (Utf8.encode more) h
  rw [Utf8.encode_append, Utf8.encode_cons, Utf8.encodeChar_ascii hascii] at hlonger
  exact Bool.false_ne_true (hnot.symm.trans hlonger)

/-- Two texts with marks after them are the same if what they begin is the same. -/
theorem append_mark_inj {xs ys r r' : List Char} {c d : Char} (hc : IsMark c) (hd : IsMark d)
    (hx : Scan.accepts (Utf8.encode xs) = true) (hy : Scan.accepts (Utf8.encode ys) = true)
    (h : xs ++ c :: r = ys ++ d :: r') : xs = ys ∧ c :: r = d :: r' := by
  rcases List.append_eq_append_iff.mp h with ⟨more, rfl, hr⟩ | ⟨more, rfl, hr⟩
  · cases more with
    | nil => simpa using hr
    | cons e more =>
        obtain ⟨rfl, -⟩ := List.cons.inj hr
        exact absurd hc (not_isMark_of_accepts hx hy)
  · cases more with
    | nil => simpa using hr.symm
    | cons e more =>
        obtain ⟨rfl, -⟩ := List.cons.inj hr
        exact absurd hd (not_isMark_of_accepts hy hx)

/-! ### Texts without blanks at their ends -/

/-- The characters between the parts of a text. -/
def isBlankChar (c : Char) : Bool := c = ' ' || c = '\n' || c = '\r' || c = '\t'

/-- Neither the first nor the last character is a blank. -/
structure Solid (cs : List Char) : Prop where
  front : ∀ c ∈ cs.head?, isBlankChar c = false
  back : ∀ c ∈ cs.getLast?, isBlankChar c = false

theorem Solid.of_ends {c d : Char} {mid : List Char} (hc : isBlankChar c = false)
    (hd : isBlankChar d = false) : Solid (c :: (mid ++ [d])) := by
  constructor
  · simpa using hc
  · rw [← List.cons_append, List.getLast?_concat]
    simpa using hd

theorem Solid.of_forall {cs : List Char} (h : ∀ c ∈ cs, isBlankChar c = false) : Solid cs :=
  ⟨fun c hc => h c (List.mem_of_head? hc), fun c hc => h c (List.mem_of_getLast? hc)⟩

/-- Only blanks are written as blanks. -/
theorem isBlankByte_of_mem_encodeChar {c : Char} {b : UInt8} (hc : isBlankChar c = false)
    (hb : b ∈ String.utf8EncodeChar c) : isBlankByte b = false := by
  by_cases hascii : c.toNat < 0x80
  · rw [Utf8.encodeChar_ascii hascii, List.mem_singleton] at hb
    subst hb
    simp [isBlankChar, ← Char.toNat_inj] at hc
    simp [isBlankByte, ← UInt8.toNat_inj]
    omega
  · have hle := Utf8.le_of_mem_encodeChar (by omega) hb
    simp [isBlankByte, ← UInt8.toNat_inj]
    omega

/-- Nothing is trimmed exactly if there is no blank at either end. -/
theorem trim_eq_self_iff {bytes : Bytes} : trim bytes = bytes ↔
    (∀ b ∈ bytes.head?, isBlankByte b = false) ∧ ∀ b ∈ bytes.getLast?, isBlankByte b = false := by
  rw [← trimFront_eq_self_iff, ← List.head?_reverse, ← trimFront_eq_self_iff]
  constructor
  · intro h
    have hlength : ∀ bs : Bytes, (trimFront bs).length ≤ bs.length :=
      fun bs => (List.dropWhile_sublist _).length_le
    have hback := hlength (trimFront bytes).reverse
    have htrim := congrArg List.length h
    rw [trim, List.length_reverse] at htrim
    rw [List.length_reverse] at hback
    have hfront : trimFront bytes = bytes :=
      (List.dropWhile_sublist _).eq_of_length (Nat.le_antisymm (hlength bytes) (htrim ▸ hback))
    rw [trim, hfront] at h
    exact ⟨hfront, by rw [← List.reverse_reverse (trimFront bytes.reverse), h]⟩
  · rintro ⟨hfront, hback⟩
    rw [trim, hfront, hback, List.reverse_reverse]

/-- Nothing is trimmed from what was written without blanks at its ends. -/
theorem trim_encode_of_solid {cs : List Char} (h : Solid cs) :
    trim (Utf8.encode cs) = Utf8.encode cs := by
  rw [trim_eq_self_iff]
  constructor
  · intro b hb
    obtain ⟨c, hc, hmem⟩ := Utf8.mem_head?_encode hb
    exact isBlankByte_of_mem_encodeChar (h.front c hc) hmem
  · intro b hb
    obtain ⟨c, hc, hmem⟩ := Utf8.mem_getLast?_encode hb
    exact isBlankByte_of_mem_encodeChar (h.back c hc) hmem

/-! ### Texts that are kept -/

namespace Raw

theorem encode_chars (raw : Raw) : Utf8.encode raw.chars = raw.bytes :=
  Utf8.encode_of_decode? raw.decoded

theorem bytes_ne_nil (raw : Raw) : raw.bytes ≠ [] := by
  intro hnil
  have haccepted := raw.accepted
  rw [hnil] at haccepted
  exact absurd haccepted (by decide)

/-- Of bytes that are read, all are kept but the blanks around the text. -/
theorem bytes_of_read {bytes : Bytes} {raw : Raw} (h : read bytes = .ok raw) :
    raw.bytes = trim bytes := by
  unfold read at h
  split at h
  · split at h <;> cases h
  · split at h
    · cases h
    · cases h
      rfl

end Raw

/-! ### What is written is solid -/

theorem isBlankChar_of_mem_numberChars {n : Number} {c : Char} (hc : c ∈ n.chars) :
    isBlankChar c = false := by
  rcases n.mem_chars hc with hdigit | hmark
  · rw [Digits.isDigit_iff] at hdigit
    simp [isBlankChar, ← Char.toNat_inj]
    omega
  · have hall : ∀ d ∈ ['.', 'e', '-', '+'], isBlankChar d = false := by simp [isBlankChar]
    exact hall c hmark

theorem exists_itemsChars_eq (items : List Value) : ∃ front, itemsChars items = front ++ [']'] := by
  induction items with
  | nil => exact ⟨[], rfl⟩
  | cons item rest ih =>
      obtain ⟨front, hfront⟩ := ih
      exact ⟨',' :: (item.chars ++ front), by simp [itemsChars, hfront]⟩

theorem exists_membersChars_eq (members : List (String × Value)) :
    ∃ front, membersChars members = front ++ ['\x7d'] := by
  induction members with
  | nil => exact ⟨[], rfl⟩
  | cons member rest ih =>
      obtain ⟨key, value⟩ := member
      obtain ⟨front, hfront⟩ := ih
      exact ⟨',' :: (stringChars key ++ ':' :: (value.chars ++ front)),
        by simp [membersChars, hfront]⟩

theorem solid_stringChars (s : String) : Solid (stringChars s) := Solid.of_ends rfl rfl

theorem Value.solid_chars (value : Value) : Solid value.chars := by
  cases value with
  | null => exact Solid.of_forall (by simp [Value.chars, isBlankChar])
  | bool b => cases b <;> exact Solid.of_forall (by simp [Value.chars, isBlankChar])
  | number n => exact Solid.of_forall fun c hc => isBlankChar_of_mem_numberChars hc
  | string s => exact solid_stringChars s
  | array items =>
      cases items with
      | nil => exact Solid.of_forall (by simp [Value.chars, isBlankChar])
      | cons item rest =>
          obtain ⟨front, hfront⟩ := exists_itemsChars_eq rest
          have hends : (Value.array (item :: rest)).chars =
              '[' :: (item.chars ++ front ++ [']']) := by
            simp [Value.chars, hfront]
          rw [hends]
          exact Solid.of_ends rfl rfl
  | object members =>
      cases members with
      | nil => exact Solid.of_forall (by simp [Value.chars, isBlankChar])
      | cons member rest =>
          obtain ⟨key, value⟩ := member
          obtain ⟨front, hfront⟩ := exists_membersChars_eq rest
          have hends : (Value.object ((key, value) :: rest)).chars =
              '\x7b' :: (stringChars key ++ ':' :: (value.chars ++ front) ++ ['\x7d']) := by
            simp [Value.chars, hfront]
          rw [hends]
          exact Solid.of_ends rfl rfl

end Json

theorem Payment.solid_chars (p : Payment) : Json.Solid p.chars := Json.Solid.of_ends rfl rfl

theorem Refund.solid_chars (r : Refund) : Json.Solid r.chars := Json.Solid.of_ends rfl rfl

end SignedPayments
