import SignedPayments.Call
import SignedPayments.Proofs.Json.Ends

/-!
# SignedPayments.Proofs.Json.Written

Everything that is written is a JSON text. The machine that tells texts takes what the
writer gives, and stops where a text may end (`Value.reads`), so a body that was written
can be kept as a text (`Body.exists_read_of_write`).

A value is read from the state in which one is awaited, whatever lists and objects are
open. It need not leave the state after a complete value: a number goes on until something
else comes, so there it is a number that may end (`Scan.Done`). Both are told apart by no
byte that can follow.
-/

namespace SignedPayments

namespace Json

namespace Scan

variable {s t u : State} {frames : List Frame} {cs ds : List Char} {c : Char} {b : UInt8}

/-- Reading characters leads from one state to another. -/
def Reads (s : State) (cs : List Char) (t : State) : Prop := run s 0 (Utf8.encode cs) = .ok t

theorem Reads.nil (s : State) : Reads s [] s := rfl

theorem Reads.append (h : Reads s cs t) (h' : Reads t ds u) : Reads s (cs ++ ds) u := by
  rw [Reads, Utf8.encode_append, run_append, h]
  exact run_ok_shift _ h'

/-- A character of one byte takes one step. -/
theorem Reads.cons (hc : c.toNat < 0x80) (hstep : step s (UInt8.ofNat c.toNat) = .ok t)
    (h : Reads t cs u) : Reads s (c :: cs) u := by
  rw [Reads, Utf8.encode_cons, Utf8.encodeChar_ascii hc, List.singleton_append, run, hstep]
  exact run_ok_shift _ h

/-! ### Strings -/

section

variable {isKey : Bool}

theorem run_string_of_plain {bytes : Bytes} (n : Nat)
    (h : ∀ b ∈ bytes, b ≠ 0x22 ∧ b ≠ 0x5c ∧ ¬b < 0x20) :
    run ⟨.string isKey .none, frames⟩ n bytes = .ok ⟨.string isKey .none, frames⟩ := by
  induction bytes generalizing n with
  | nil => rfl
  | cons b rest ih =>
      obtain ⟨hquote, hback, hcontrol⟩ := h b List.mem_cons_self
      have hstep : step ⟨.string isKey .none, frames⟩ b = .ok ⟨.string isKey .none, frames⟩ := by
        simp [step, stepString, hquote, hback, hcontrol]
      rw [run, hstep]
      exact ih (n + 1) fun b hb => h b (List.mem_cons_of_mem _ hb)

theorem isHexByte_digit : ∀ n < 16, (Hex.digit n).toNat < 0x80 ∧
    isHexByte (UInt8.ofNat (Hex.digit n).toNat) = true := by
  decide

/-- A control that has no short form. -/
theorem reads_control (hc : c.toNat < 0x20) :
    Reads ⟨.string isKey .none, frames⟩
      ['\\', 'u', '0', '0', Hex.digit (c.toNat / 16), Hex.digit (c.toNat % 16)]
      ⟨.string isKey .none, frames⟩ := by
  obtain ⟨hhigh, hhighHex⟩ := isHexByte_digit (c.toNat / 16) (by omega)
  obtain ⟨hlow, hlowHex⟩ := isHexByte_digit (c.toNat % 16) (by omega)
  have hopen : Reads ⟨.string isKey .none, frames⟩ ['\\', 'u', '0', '0']
      ⟨.string isKey (.hex 2 false), frames⟩ := rfl
  have hfirst : step ⟨.string isKey (.hex 2 false), frames⟩
      (UInt8.ofNat (Hex.digit (c.toNat / 16)).toNat) =
        .ok ⟨.string isKey (.hex 1 false), frames⟩ := by
    simp [step, stepString, hhighHex]
  have hsecond : step ⟨.string isKey (.hex 1 false), frames⟩
      (UInt8.ofNat (Hex.digit (c.toNat % 16)).toNat) = .ok ⟨.string isKey .none, frames⟩ := by
    simp [step, stepString, hlowHex]
  exact hopen.append (.cons hhigh hfirst (.cons hlow hsecond (.nil _)))

/-- A character that stands for itself. -/
theorem reads_plain (hquote : c ≠ '"') (hback : c ≠ '\\') (hc : ¬c.toNat < 0x20) :
    Reads ⟨.string isKey .none, frames⟩ [c] ⟨.string isKey .none, frames⟩ := by
  rw [Reads, Utf8.encode_cons, Utf8.encode_nil, List.append_nil]
  refine run_string_of_plain 0 fun b hb => ?_
  simp only [ne_eq, ← UInt8.toNat_inj, UInt8.lt_iff_toNat_lt, UInt8.reduceToNat]
  simp only [ne_eq, ← Char.toNat_inj] at hquote hback
  by_cases hascii : c.toNat < 0x80
  · rw [Utf8.encodeChar_ascii hascii, List.mem_singleton] at hb
    rw [hb, UInt8.toNat_ofNat', Nat.mod_eq_of_lt (by omega)]
    exact ⟨hquote, hback, hc⟩
  · have hle := Utf8.le_of_mem_encodeChar (by omega) hb
    omega

/-- A character is read as it is written in a string. -/
theorem reads_escape (c : Char) (isKey : Bool) (frames : List Frame) :
    Reads ⟨.string isKey .none, frames⟩ (escape c) ⟨.string isKey .none, frames⟩ := by
  unfold escape
  split
  · rfl
  split
  · rfl
  split
  · rfl
  split
  · rfl
  split
  · rfl
  split
  · rfl
  split
  · rfl
  split
  · next hc => exact reads_control hc
  · next hquote hback _ _ _ _ _ hc => exact reads_plain hquote hback hc

theorem reads_flatMap_escape (cs : List Char) (isKey : Bool) (frames : List Frame) :
    Reads ⟨.string isKey .none, frames⟩ (cs.flatMap escape) ⟨.string isKey .none, frames⟩ := by
  induction cs with
  | nil => exact .nil _
  | cons c cs ih => exact (reads_escape c isKey frames).append ih

/-- What stands between the quotes of a string, and the closing one. -/
theorem reads_string (s : String) (isKey : Bool) (frames : List Frame) :
    Reads ⟨.string isKey .none, frames⟩ (s.toList.flatMap escape ++ ['"'])
      ⟨if isKey then .colon else .next, frames⟩ :=
  (reads_flatMap_escape s.toList isKey frames).append rfl

end

/-- A string where a value is awaited. -/
theorem reads_stringChars (s : String) (frames : List Frame) :
    Reads ⟨.value, frames⟩ (stringChars s) ⟨.next, frames⟩ :=
  .cons (by decide) rfl (reads_string s false frames)

/-- A key and its colon. -/
theorem reads_key (s : String) {expect : Expect} (h : expect = .key ∨ expect = .firstKey) :
    Reads ⟨expect, frames⟩ (stringChars s ++ [':']) ⟨.value, frames⟩ := by
  have hquote : step ⟨expect, frames⟩ (UInt8.ofNat '"'.toNat) =
      .ok ⟨.string true .none, frames⟩ := by
    rcases h with rfl | rfl <;> rfl
  exact (Reads.cons (by decide) hquote (reads_string s true frames)).append rfl

/-! ### Numbers -/

theorem isDigitByte_of_isDigit (h : Digits.isDigit c = true) :
    c.toNat < 0x80 ∧ isDigitByte (UInt8.ofNat c.toNat) = true := by
  rw [Digits.isDigit_iff] at h
  refine ⟨by omega, ?_⟩
  simp only [isDigitByte, Bool.and_eq_true, decide_eq_true_eq, UInt8.le_iff_toNat_le,
    UInt8.toNat_ofNat', UInt8.reduceToNat]
  omega

theorem step_number {part part' : NumberPart} (h : part.step? b = some part') :
    step ⟨.number part, frames⟩ b = .ok ⟨.number part', frames⟩ := by
  simp [step, stepNumber, h]

/-- Digits after which the number stands where it stood. -/
theorem reads_digits {part : NumberPart}
    (hpart : ∀ b, isDigitByte b = true → part.step? b = some part)
    (hcs : ∀ c ∈ cs, Digits.isDigit c = true) :
    Reads ⟨.number part, frames⟩ cs ⟨.number part, frames⟩ := by
  induction cs with
  | nil => exact .nil _
  | cons c cs ih =>
      obtain ⟨hc, hdigit⟩ := isDigitByte_of_isDigit (hcs c List.mem_cons_self)
      exact .cons hc (step_number (hpart _ hdigit))
        (ih fun d hd => hcs d (List.mem_cons_of_mem _ hd))

/-- Digits of which the first leads to a part, and the others go on with it. -/
theorem reads_digits_of_first {part part' : NumberPart}
    (hfirst : ∀ b, isDigitByte b = true → part.step? b = some part')
    (hpart : ∀ b, isDigitByte b = true → part'.step? b = some part')
    (hcs : ∀ c ∈ cs, Digits.isDigit c = true) (hne : cs ≠ []) :
    Reads ⟨.number part, frames⟩ cs ⟨.number part', frames⟩ := by
  obtain ⟨c, rest, rfl⟩ := List.exists_cons_of_ne_nil hne
  obtain ⟨hc, hdigit⟩ := isDigitByte_of_isDigit (hcs c List.mem_cons_self)
  exact .cons hc (step_number (hfirst _ hdigit))
    (reads_digits hpart fun d hd => hcs d (List.mem_cons_of_mem _ hd))

/-- The digits after the point. -/
theorem reads_fraction (hcs : ∀ c ∈ cs, Digits.isDigit c = true) (hne : cs ≠ []) :
    Reads ⟨.number .point, frames⟩ cs ⟨.number .fraction, frames⟩ :=
  reads_digits_of_first (fun b hb => by simp [NumberPart.step?, hb])
    (fun b hb => by simp [NumberPart.step?, hb]) hcs hne

/-- A state in which a number may begin, up to its minus sign. -/
structure BeginsNumber (s : State) (frames : List Frame) : Prop where
  zero : step s 0x30 = .ok ⟨.number .zero, frames⟩
  digit : ∀ b, isDigitByte b = true → b ≠ 0x30 → step s b = .ok ⟨.number .whole, frames⟩

theorem beginsNumber_minus (frames : List Frame) :
    BeginsNumber ⟨.number .minus, frames⟩ frames where
  zero := rfl
  digit b hb hne := step_number (by simp [NumberPart.step?, hne, hb])

theorem beginsNumber_value (frames : List Frame) : BeginsNumber ⟨.value, frames⟩ frames where
  zero := rfl
  digit b hb hne := by
    have hrange : 0x30 ≤ b.toNat ∧ b.toNat ≤ 0x39 := by
      simpa [isDigitByte, UInt8.le_iff_toNat_le] using hb
    have hother : ∀ other : UInt8, other.toNat < 0x30 ∨ 0x39 < other.toNat → b ≠ other := by
      rintro other hother rfl
      omega
    have hblank : isBlankByte b = false := by
      simp [isBlankByte, hother]
    have hword : Word.ofFirst? b = none := by
      simp [Word.ofFirst?, hother]
    have hminus : b ≠ 0x2d := hother _ (by decide)
    simp [step, stepValue, hblank, hword, hminus, hne, hb]

/-- Digits that begin with another one than zero. -/
theorem BeginsNumber.reads_leading (hs : BeginsNumber s frames) (h : Digits.Leading cs) :
    Reads s cs ⟨.number .whole, frames⟩ := by
  obtain ⟨d, rest, rfl, hd⟩ := h.first
  obtain ⟨hc, hdigit⟩ := isDigitByte_of_isDigit (h.isDigit d List.mem_cons_self)
  have hne : UInt8.ofNat d.toNat ≠ 0x30 := by
    simp only [ne_eq, ← Char.toNat_inj] at hd
    simp only [ne_eq, ← UInt8.toNat_inj, UInt8.toNat_ofNat', UInt8.reduceToNat]
    rw [Nat.mod_eq_of_lt (by omega)]
    exact hd
  exact .cons hc (hs.digit _ hdigit hne)
    (reads_digits (fun b hb => by simp [NumberPart.step?, hb])
      fun c hc => h.isDigit c (List.mem_cons_of_mem _ hc))

/-- The digits before the point, or those of an integer. -/
theorem BeginsNumber.reads_whole (hs : BeginsNumber s frames)
    (h : cs = ['0'] ∨ Digits.Leading cs) :
    ∃ part, (part = .zero ∨ part = .whole) ∧ Reads s cs ⟨.number part, frames⟩ := by
  rcases h with rfl | h
  · exact ⟨.zero, .inl rfl, .cons (by decide) hs.zero (.nil _)⟩
  · exact ⟨.whole, .inr rfl, hs.reads_leading h⟩

/-- An exponent, from the part of the number that it may follow. -/
theorem reads_exponent {part : NumberPart} (hpart : part.step? 0x65 = some .exponent)
    (exponent : Int) :
    Reads ⟨.number part, frames⟩ (exponentTail (some exponent))
      ⟨.number .exponentDigits, frames⟩ := by
  have hdigits : Reads ⟨.number .exponentSign, frames⟩ (Digits.ofNat exponent.natAbs)
      ⟨.number .exponentDigits, frames⟩ :=
    reads_digits_of_first (fun b hb => by simp [NumberPart.step?, hb])
      (fun b hb => by simp [NumberPart.step?, hb])
      (fun c => Digits.isDigit_of_mem_ofNat) Nat.toDigits_ne_nil
  refine .cons (by decide) (step_number hpart) ?_
  split
  · exact .cons (by decide) rfl hdigits
  · exact .cons (by decide) rfl hdigits

/-- A state in which a value is complete, up to what ends a number. -/
inductive Done (frames : List Frame) : State → Prop
  | next : Done frames ⟨.next, frames⟩
  | number {part : NumberPart} (h : part.mayEnd = true) : Done frames ⟨.number part, frames⟩

/-- A decimal ends in its fraction or its exponent. -/
theorem BeginsNumber.reads_spells (hs : BeginsNumber s frames) {whole fraction : List Char}
    {exponent : Option Int} (h : Spells cs whole fraction exponent) :
    ∃ t, Done frames t ∧ Reads s cs t := by
  obtain ⟨part, hpart, hwhole⟩ := hs.reads_whole h.whole_eq
  rw [h.eq]
  by_cases hnone : fraction = []
  · obtain ⟨e, rfl⟩ :=
      Option.ne_none_iff_exists'.mp (h.marked.resolve_left fun hne => hne hnone)
    have hexponent : part.step? 0x65 = some .exponent := by rcases hpart with rfl | rfl <;> rfl
    rw [if_pos hnone]
    exact ⟨_, .number rfl, hwhole.append (reads_exponent hexponent e)⟩
  · have hpoint : part.step? 0x2e = some .point := by rcases hpart with rfl | rfl <;> rfl
    have hfraction : Reads ⟨.number part, frames⟩ ('.' :: fraction) ⟨.number .fraction, frames⟩ :=
      .cons (by decide) (step_number hpoint) (reads_fraction h.fraction_digits hnone)
    rw [if_neg hnone]
    cases exponent with
    | none => exact ⟨_, .number rfl, hwhole.append (hfraction.append (.nil _))⟩
    | some e => exact ⟨_, .number rfl, hwhole.append (hfraction.append (reads_exponent rfl e))⟩

/-- What is read where a number may begin is read after a minus sign too. -/
theorem reads_signed (negative : Bool)
    (h : ∀ s, BeginsNumber s frames → ∃ t, Done frames t ∧ Reads s cs t) :
    ∃ t, Done frames t ∧ Reads ⟨.value, frames⟩ (signed negative cs) t := by
  cases negative with
  | false => exact h _ (beginsNumber_value frames)
  | true =>
      obtain ⟨t, ht, hreads⟩ := h _ (beginsNumber_minus frames)
      exact ⟨t, ht, .cons (by decide) rfl hreads⟩

theorem reads_integerChars (n : Int) (frames : List Frame) :
    ∃ t, Done frames t ∧ Reads ⟨.value, frames⟩ (integerChars n) t := by
  rw [integerChars_eq]
  refine reads_signed _ fun s hs => ?_
  obtain ⟨part, hpart, hdigits⟩ := hs.reads_whole (Digits.ofNat_cases n.natAbs)
  have hend : part.mayEnd = true := by rcases hpart with rfl | rfl <;> rfl
  exact ⟨_, .number hend, hdigits⟩

/-- A floating point number, the word `null` for one that is not finite included. -/
theorem reads_floatChars (x : Binary64) (frames : List Frame) :
    ∃ t, Done frames t ∧ Reads ⟨.value, frames⟩ (floatChars x) t := by
  cases hfinite : x.isFinite with
  | false =>
      rw [floatChars_of_not_finite hfinite]
      exact ⟨_, .next, rfl⟩
  | true =>
      obtain ⟨_, _, _, hspells, -⟩ := exists_spells_magnitudeChars x.magnitude
      rw [floatChars_eq hfinite]
      exact reads_signed _ fun s hs => hs.reads_spells hspells

theorem reads_numberChars (n : Number) (frames : List Frame) :
    ∃ t, Done frames t ∧ Reads ⟨.value, frames⟩ n.chars t := by
  cases n with
  | integer n => exact reads_integerChars n frames
  | float x finite => exact reads_floatChars x frames

/-! ### Values -/

/-- A comma or the end of a list or an object ends a number too. -/
theorem Done.step_eq (h : Done frames s) (hb : b = 0x2c ∨ b = 0x5d ∨ b = 0x7d) :
    step s b = stepNext frames b := by
  cases h with
  | next => rfl
  | @number part hend =>
      have hnone : part.step? b = none := by
        rcases hb with rfl | rfl | rfl <;> cases part <;> rfl
      have hdigit : isDigitByte b = false := by
        rcases hb with rfl | rfl | rfl <;> rfl
      simp [step, stepNumber, hnone, hend, hdigit]

theorem Done.missing?_eq (h : Done [] s) : s.missing? = none := by
  cases h with
  | next => rfl
  | number hend => simp [State.missing?, hend]

/-- A value may be the first item of a list as well. -/
theorem run_firstItem {bytes : Bytes} {n : Nat} (h : run ⟨.value, frames⟩ n bytes = .ok t)
    (ht : t ≠ ⟨.value, frames⟩) : run ⟨.firstItem, frames⟩ n bytes = .ok t := by
  induction bytes generalizing n with
  | nil =>
      cases h
      exact absurd rfl ht
  | cons b rest ih =>
      by_cases hblank : isBlankByte b = true
      · have hvalue : step ⟨.value, frames⟩ b = .ok ⟨.value, frames⟩ := by simp [step, hblank]
        have hitem : step ⟨.firstItem, frames⟩ b = .ok ⟨.firstItem, frames⟩ := by
          simp [step, hblank]
        rw [run, hvalue] at h
        rw [run, hitem]
        exact ih h
      · have hend : b ≠ 0x5d := by
          rintro rfl
          cases h
        have hstep : step ⟨.firstItem, frames⟩ b = step ⟨.value, frames⟩ b := by
          simp [step, hblank, hend]
        rw [run, hstep]
        exact h

theorem Done.ne_value (h : Done frames s) (frames' : List Frame) : s ≠ ⟨.value, frames'⟩ := by
  cases h <;> simp

/-- A mark after a value. -/
theorem Done.reads_mark (h : Done frames s) (hc : IsMark c)
    (hstep : stepNext frames (UInt8.ofNat c.toNat) = .ok t) (hcs : Reads t cs u) :
    Reads s (c :: cs) u := by
  have hascii : c.toNat < 0x80 := by rcases hc with rfl | rfl | rfl <;> decide
  have hbyte : UInt8.ofNat c.toNat = 0x2c ∨ UInt8.ofNat c.toNat = 0x5d ∨
      UInt8.ofNat c.toNat = 0x7d := by
    rcases hc with rfl | rfl | rfl <;> decide
  exact .cons hascii ((h.step_eq hbyte).trans hstep) hcs

end Scan

open Scan

mutual

/-- A value is read where one is awaited, whatever is open. -/
theorem Value.reads (v : Value) (frames : List Frame) :
    ∃ t, Done frames t ∧ Reads ⟨.value, frames⟩ v.chars t := by
  match v with
  | .null => exact ⟨_, .next, rfl⟩
  | .bool true => exact ⟨_, .next, rfl⟩
  | .bool false => exact ⟨_, .next, rfl⟩
  | .number n => exact reads_numberChars n frames
  | .string s => exact ⟨_, .next, reads_stringChars s frames⟩
  | .array [] => exact ⟨_, .next, rfl⟩
  | .array (item :: rest) =>
      obtain ⟨t, ht, hitem⟩ := item.reads (.list :: frames)
      have hfirst : Reads ⟨.firstItem, .list :: frames⟩ item.chars t :=
        run_firstItem hitem (ht.ne_value _)
      exact ⟨_, .next, .cons (by decide) rfl (hfirst.append (reads_itemsChars rest frames ht))⟩
  | .object [] => exact ⟨_, .next, rfl⟩
  | .object ((key, value) :: rest) =>
      obtain ⟨t, ht, hvalue⟩ := value.reads (.object :: frames)
      have hmember :=
        ((reads_key key (.inr rfl)).append hvalue).append (reads_membersChars rest frames ht)
      rw [List.append_assoc, List.append_assoc] at hmember
      exact ⟨_, .next, .cons (by decide) rfl hmember⟩

theorem reads_itemsChars (items : List Value) (frames : List Frame) {s : State}
    (hs : Done (.list :: frames) s) : Reads s (itemsChars items) ⟨.next, frames⟩ := by
  match items with
  | [] => exact hs.reads_mark (.inr (.inl rfl)) rfl (.nil _)
  | item :: rest =>
      obtain ⟨t, ht, hitem⟩ := item.reads (.list :: frames)
      exact hs.reads_mark (.inl rfl) rfl (hitem.append (reads_itemsChars rest frames ht))

theorem reads_membersChars (members : List (String × Value)) (frames : List Frame) {s : State}
    (hs : Done (.object :: frames) s) : Reads s (membersChars members) ⟨.next, frames⟩ := by
  match members with
  | [] => exact hs.reads_mark (.inr (.inr rfl)) rfl (.nil _)
  | (key, value) :: rest =>
      obtain ⟨t, ht, hvalue⟩ := value.reads (.object :: frames)
      have hmember :=
        ((reads_key key (.inl rfl)).append hvalue).append (reads_membersChars rest frames ht)
      rw [List.append_assoc, List.append_assoc] at hmember
      exact hs.reads_mark (.inl rfl) rfl hmember

end

/-- An object is a value too. -/
theorem Object.reads (members : Object) (frames : List Frame) :
    ∃ t, Done frames t ∧ Reads ⟨.value, frames⟩ members.chars t :=
  (Value.object members).reads frames

/-- What is read as a complete value is a text. -/
theorem accepts_of_reads {cs : List Char} {t : State} (h : Reads start cs t) (ht : Done [] t) :
    accepts (Utf8.encode cs) = true :=
  accepts_iff.mpr ⟨t, h, ht.missing?_eq⟩

/-- A text in UTF-8 is kept. -/
theorem Raw.exists_read {bytes : Bytes} {cs : List Char} (h : accepts bytes = true)
    (hdecode : Utf8.decode? (trim bytes) = some cs) : ∃ raw, Raw.read bytes = .ok raw := by
  unfold Raw.read
  split
  · next hfault =>
    rw [accepts, hfault] at h
    cases h
  · split
    · next hnone =>
      rw [hdecode] at hnone
      cases hnone
    · exact ⟨_, rfl⟩

/-- What is written without blanks at its ends is kept. -/
theorem Raw.exists_read_encode {cs : List Char} {t : State} (h : Reads start cs t)
    (ht : Done [] t) (hsolid : Solid cs) : ∃ raw, Raw.read (Utf8.encode cs) = .ok raw :=
  Raw.exists_read (accepts_of_reads h ht)
    (by rw [trim_encode_of_solid hsolid, Utf8.decode?_encode])

/-- What was kept is kept again. -/
theorem Raw.exists_read_bytes (raw : Raw) : ∃ raw', Raw.read raw.bytes = .ok raw' :=
  Raw.exists_read raw.accepted (by rw [raw.trimmed, raw.decoded])

end Json

open Json Json.Scan

theorem reads_stringChars? (s : Option String) (frames : List Frame) :
    Reads ⟨.value, frames⟩ (stringChars? s) ⟨.next, frames⟩ := by
  cases s with
  | none => rfl
  | some s => exact reads_stringChars s frames

theorem reads_objectChars? (members : Option Json.Object) (frames : List Frame) :
    ∃ t, Done frames t ∧ Reads ⟨.value, frames⟩ (objectChars? members) t := by
  cases members with
  | none => exact ⟨_, .next, rfl⟩
  | some members => exact members.reads frames

theorem Payment.reads (p : Payment) : Reads start p.chars ⟨.next, []⟩ := by
  obtain ⟨s, hs, hamount⟩ := reads_floatChars p.amount [.object]
  obtain ⟨t, ht, hmetadata⟩ := reads_objectChars? p.metadata [.object]
  have hopen : Reads start "\x7b\"amount\":".toList ⟨.value, [.object]⟩ := rfl
  have hcurrency : Reads s ",\"currency\":".toList ⟨.value, [.object]⟩ :=
    hs.reads_mark (.inl rfl) rfl rfl
  have hdescription : Reads ⟨.next, [.object]⟩ ",\"description\":".toList ⟨.value, [.object]⟩ := rfl
  have hname : Reads ⟨.next, [.object]⟩ ",\"metadata\":".toList ⟨.value, [.object]⟩ := rfl
  have hend : Reads t ['\x7d'] ⟨.next, []⟩ := ht.reads_mark (.inr (.inr rfl)) rfl (.nil _)
  exact (((((((hopen.append hamount).append hcurrency).append
    (reads_stringChars p.currency _)).append hdescription).append
    (reads_stringChars? p.description _)).append hname).append hmetadata).append hend

theorem Refund.reads (r : Refund) : Reads start r.chars ⟨.next, []⟩ := by
  obtain ⟨s, hs, hamount⟩ := reads_floatChars r.amount [.object]
  obtain ⟨t, ht, hmetadata⟩ := reads_objectChars? r.metadata [.object]
  have hopen : Reads start "\x7b\"paymentId\":".toList ⟨.value, [.object]⟩ := rfl
  have hname : Reads ⟨.next, [.object]⟩ ",\"amount\":".toList ⟨.value, [.object]⟩ := rfl
  have hreason : Reads s ",\"reason\":".toList ⟨.value, [.object]⟩ :=
    hs.reads_mark (.inl rfl) rfl rfl
  have hlast : Reads ⟨.next, [.object]⟩ ",\"metadata\":".toList ⟨.value, [.object]⟩ := rfl
  have hend : Reads t ['\x7d'] ⟨.next, []⟩ := ht.reads_mark (.inr (.inr rfl)) rfl (.nil _)
  exact (((((((hopen.append (reads_stringChars r.paymentId _)).append hname).append
    hamount).append hreason).append (reads_stringChars r.reason _)).append hlast).append
    hmetadata).append hend

/-- A body that was written can be kept as a text. -/
theorem Body.exists_read_of_write {body : Body} {bytes : Bytes} (h : body.write = .ok bytes) :
    ∃ raw, Raw.read bytes = .ok raw := by
  cases body with
  | payment p =>
      cases h
      exact Raw.exists_read_encode p.reads .next p.solid_chars
  | refund r =>
      cases h
      exact Raw.exists_read_encode r.reads .next r.solid_chars
  | json value =>
      cases h
      obtain ⟨t, ht, hreads⟩ := value.reads []
      exact Raw.exists_read_encode hreads ht value.solid_chars
  | raw text =>
      cases h
      exact text.exists_read_bytes
  | unwritable fault => cases h

end SignedPayments
