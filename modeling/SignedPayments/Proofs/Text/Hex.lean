import SignedPayments.Text.Hex

/-!
# SignedPayments.Proofs.Text.Hex

Bytes are written with two digits each, and are read back from what was written.
-/

namespace SignedPayments

namespace Hex

theorem digitValue?_digit {n : Nat} (h : n < 16) : digitValue? (digit n) = some n := by
  have hall : ∀ k < 16, digitValue? (digit k) = some k := by decide
  exact hall n h

theorem exists_of_mem_digits {bytes : Bytes} {c : Char} (h : c ∈ digits bytes) :
    ∃ n < 16, c = digit n := by
  obtain ⟨b, -, hc⟩ := List.mem_flatMap.mp h
  have hb := b.toNat_lt
  simp only [List.mem_cons, List.not_mem_nil, or_false] at hc
  rcases hc with rfl | rfl
  · exact ⟨b.toNat / 16, by omega, rfl⟩
  · exact ⟨b.toNat % 16, by omega, rfl⟩

theorem length_digits (bytes : Bytes) : (digits bytes).length = 2 * bytes.length := by
  induction bytes with
  | nil => rfl
  | cons b bytes ih =>
      rw [digits, List.flatMap_cons, List.length_append, ← digits, ih]
      simp only [List.length_cons, List.length_nil]
      omega

theorem ofDigits?_digits (bytes : Bytes) : ofDigits? (digits bytes) = some bytes := by
  induction bytes with
  | nil => rfl
  | cons b bytes ih =>
      have hb := b.toNat_lt
      have hvalue : 16 * (b.toNat / 16) + b.toNat % 16 = b.toNat := Nat.div_add_mod b.toNat 16
      rw [digits, List.flatMap_cons, ← digits]
      simp only [List.cons_append, List.nil_append, ofDigits?,
        digitValue?_digit (n := b.toNat / 16) (by omega),
        digitValue?_digit (n := b.toNat % 16) (by omega), ih, Option.bind_eq_bind,
        Option.bind_some, Option.pure_def, hvalue, UInt8.ofNat_toNat]

/-- What it is that a text writes bytes in lowercase digits. -/
structure Writes (text : String) (bytes : Bytes) : Prop where
  length : text.length = 2 * bytes.length
  lowercase : ∀ c ∈ text.toList, ('0' ≤ c ∧ c ≤ '9') ∨ ('a' ≤ c ∧ c ≤ 'f')
  decodes : decode? text = some bytes

theorem writes_encode (bytes : Bytes) : Writes (encode bytes) bytes := by
  constructor
  case length => rw [encode, String.length_ofList, length_digits]
  case lowercase =>
    intro c hc
    have hdigit : ∀ n < 16, ('0' ≤ digit n ∧ digit n ≤ '9') ∨ ('a' ≤ digit n ∧ digit n ≤ 'f') := by
      decide
    rw [encode, String.toList_ofList] at hc
    obtain ⟨n, hn, rfl⟩ := exists_of_mem_digits hc
    exact hdigit n hn
  case decodes => rw [decode?, encode, String.toList_ofList, ofDigits?_digits]

end Hex

end SignedPayments
