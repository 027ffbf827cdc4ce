import SignedPayments.Json.Writer
import SignedPayments.Proofs.Number.Shortest
import SignedPayments.Proofs.Text.Digits

/-!
# SignedPayments.Proofs.Json.Spelled

How numbers are spelled. An integer is a sign and digits. A finite floating point number is a
sign and a decimal of three parts, the digits before the point, those after it and an exponent
(`Spells`); wherever the point is written, these say what the decimal stands for
(`exists_spells_decimalChars`). What is said of texts of numbers follows from this form.
-/

namespace SignedPayments

/-- Digits of which the first is not zero. -/
structure Digits.Leading (digits : List Char) : Prop where
  isDigit : ∀ c ∈ digits, isDigit c = true
  first : ∃ d rest, digits = d :: rest ∧ d ≠ '0'

namespace Digits.Leading

variable {digits : List Char}

theorem ne_nil (h : Leading digits) : digits ≠ [] := by
  obtain ⟨d, rest, rfl, -⟩ := h.first
  exact List.cons_ne_nil _ _

theorem append_zeros (h : Leading digits) (n : Nat) : Leading (digits ++ List.replicate n '0') := by
  obtain ⟨d, rest, rfl, hd⟩ := h.first
  refine ⟨fun c hc => ?_, d, rest ++ List.replicate n '0', rfl, hd⟩
  rcases List.mem_append.mp hc with hc | hc
  · exact h.isDigit c hc
  · exact isDigit_of_mem_zeros hc

theorem take (h : Leading digits) {n : Nat} (hn : 0 < n) : Leading (digits.take n) := by
  refine ⟨fun c hc => h.isDigit c (List.mem_of_mem_take hc), ?_⟩
  obtain ⟨d, rest, rfl, hd⟩ := h.first
  obtain ⟨n, rfl⟩ := Nat.exists_eq_succ_of_ne_zero (Nat.ne_of_gt hn)
  exact ⟨d, rest.take n, rfl, hd⟩

/-- The digits of a number that is not zero. -/
theorem of_pos {n : Nat} (hn : 0 < n) : Leading (ofNat n) := by
  refine ⟨fun c => isDigit_of_mem_ofNat, ?_⟩
  unfold ofNat
  induction n using Nat.strongRecOn with
  | ind n ih =>
      by_cases hlt : n < 10
      · refine ⟨n.digitChar, [], Nat.toDigits_of_lt_base hlt, ?_⟩
        have hall : ∀ k < 10, 0 < k → k.digitChar ≠ '0' := by decide
        exact hall n hlt hn
      · obtain ⟨d, rest, hfront, hd⟩ := ih (n / 10) (by omega) (by omega)
        rw [Nat.toDigits_of_base_le (by decide) (by omega), hfront]
        exact ⟨d, _, rfl, hd⟩

end Digits.Leading

theorem Digits.ofNat_cases (n : Nat) : ofNat n = ['0'] ∨ Leading (ofNat n) := by
  cases n with
  | zero => exact .inl rfl
  | succ n => exact .inr (.of_pos (Nat.succ_pos n))

namespace Json

open Digits

/-! ### Decimals as they are spelled -/

/-- An exponent with its letter and its sign, if there is one. -/
def exponentTail : Option Int → List Char
  | none => []
  | some exponent => 'e' :: (if exponent < 0 then '-' else '+') :: ofNat exponent.natAbs

/-- Characters that spell a decimal: digits, the digits of a fraction after a point, and an
exponent. The fraction or the exponent may be missing, but not both. -/
structure Spells (cs whole fraction : List Char) (exponent : Option Int) : Prop where
  eq : cs = whole ++ ((if fraction = [] then [] else '.' :: fraction) ++ exponentTail exponent)
  whole_eq : whole = ['0'] ∨ Leading whole
  fraction_digits : ∀ c ∈ fraction, isDigit c = true
  marked : fraction ≠ [] ∨ exponent ≠ none

namespace Spells

variable {cs whole fraction : List Char} {exponent : Option Int}

theorem whole_digits (h : Spells cs whole fraction exponent) : ∀ c ∈ whole, isDigit c = true := by
  rcases h.whole_eq with rfl | hwhole
  · simp [show isDigit '0' = true from rfl]
  · exact hwhole.isDigit

theorem whole_ne_nil (h : Spells cs whole fraction exponent) : whole ≠ [] := by
  rcases h.whole_eq with rfl | hwhole
  · exact List.cons_ne_nil _ _
  · exact hwhole.ne_nil

/-- Such a text begins with a digit. -/
theorem exists_digit (h : Spells cs whole fraction exponent) :
    ∃ d rest, cs = d :: rest ∧ isDigit d = true := by
  obtain ⟨d, rest, hwhole⟩ := List.exists_cons_of_ne_nil h.whole_ne_nil
  rw [h.eq, hwhole]
  exact ⟨d, _, rfl, h.whole_digits d (hwhole ▸ List.mem_cons_self)⟩

/-- Besides digits, there are only points, signs and the letter of an exponent. -/
theorem mem_cases (h : Spells cs whole fraction exponent) {c : Char} (hc : c ∈ cs) :
    isDigit c = true ∨ c ∈ ['.', 'e', '-', '+'] := by
  rw [h.eq, List.mem_append, List.mem_append] at hc
  rcases hc with hc | hc | hc
  · exact .inl (h.whole_digits c hc)
  · split at hc
    · exact absurd hc List.not_mem_nil
    · rcases List.mem_cons.mp hc with rfl | hc
      · exact .inr (by decide)
      · exact .inl (h.fraction_digits c hc)
  · cases exponent with
    | none => exact absurd hc List.not_mem_nil
    | some exponent =>
        simp only [exponentTail, List.mem_cons] at hc
        rcases hc with rfl | rfl | hc
        · exact .inr (by decide)
        · exact .inr (by split <;> decide)
        · exact .inl (isDigit_of_mem_ofNat hc)

end Spells

/-! ### Decimals as they are written -/

section

variable {digits : List Char} {exponent : Int}

/-- Without an exponent, zeros stand before the digits or after them. After them there is one
behind the point, and no other digit. -/
theorem exists_spells_pointChars (h : Leading digits) :
    ∃ (whole fraction : List Char) (zeros : Nat),
      Spells (pointChars digits exponent) whole fraction none ∧
      value (whole ++ fraction) = value digits * 10 ^ zeros ∧
      (zeros : Int) - fraction.length = exponent + 1 - digits.length ∧
      (zeros = 0 ∨ fraction.length = 1) := by
  have hne := h.ne_nil
  have hlength := List.length_pos_iff.mpr hne
  have hzero : value ['0'] = 0 := rfl
  unfold pointChars
  split
  · next hsmall =>
    refine ⟨['0'], List.replicate (exponent.natAbs - 1) '0' ++ digits, 0,
      ⟨?_, .inl rfl, ?_, ?_⟩, ?_, ?_, .inl rfl⟩
    · simp [hne, exponentTail]
    · intro c hc
      exact (List.mem_append.mp hc).elim isDigit_of_mem_zeros (h.isDigit c)
    · simp [hne]
    · rw [value_append, value_append, hzero, value_zeros]
      omega
    · simp only [List.length_append, List.length_replicate]
      omega
  dsimp only
  split
  · next hlarge hshort =>
    refine ⟨digits ++ List.replicate (exponent.toNat + 1 - digits.length) '0', ['0'],
      exponent.toNat + 1 - digits.length + 1,
      ⟨?_, .inr (h.append_zeros _), ?_, ?_⟩, ?_, ?_, .inr rfl⟩
    · simp [exponentTail]
    · simp [show isDigit '0' = true from rfl]
    · simp
    · rw [value_append, value_append, value_zeros, hzero, List.length_replicate, Nat.pow_succ,
        ← Nat.mul_assoc]
      rfl
    · simp only [List.length_cons, List.length_nil]
      omega
  · next hlarge hlong =>
    have hrest : digits.drop (exponent.toNat + 1) ≠ [] := by simpa using hlong
    refine ⟨digits.take (exponent.toNat + 1), digits.drop (exponent.toNat + 1), 0,
      ⟨?_, .inr (h.take (Nat.succ_pos _)), ?_, .inl hrest⟩, ?_, ?_, .inl rfl⟩
    · simp [hrest, exponentTail]
    · exact fun c hc => h.isDigit c (List.mem_of_mem_drop hc)
    · rw [List.take_append_drop, Nat.pow_zero, Nat.mul_one]
    · rw [List.length_drop]
      omega

/-- With an exponent, the first digit stands before the point and the others after it. -/
theorem exists_spells_exponentChars (h : Leading digits) : ∃ whole fraction,
    Spells (exponentChars digits exponent) whole fraction (some exponent) ∧
      whole ++ fraction = digits ∧ (fraction.length : Int) = digits.length - 1 := by
  obtain ⟨d, rest, rfl, hd⟩ := h.first
  refine ⟨[d], rest, ⟨?_, .inr ⟨?_, d, [], rfl, hd⟩, ?_, .inr (Option.some_ne_none _)⟩, rfl, ?_⟩
  · cases rest with
    | nil => rfl
    | cons e rest => simp [exponentChars, exponentTail]
  · simpa using h.isDigit d List.mem_cons_self
  · exact fun c hc => h.isDigit c (List.mem_cons_of_mem _ hc)
  · rw [List.length_cons]
    omega

end

/-- The parts of a decimal say what it stands for. -/
theorem exists_spells_decimalChars {d : Decimal} (hpos : 0 < d.digits)
    (hleast : 0 ≤ d.exponent + Decimal.finest) :
    ∃ whole fraction exponent, Spells (decimalChars d) whole fraction exponent ∧
      value (whole ++ fraction) *
        10 ^ (exponent.getD 0 - fraction.length + Decimal.finest).toNat = d.value := by
  have hfinest : 1 ≤ Decimal.finest := by decide
  unfold decimalChars
  dsimp only
  split
  · obtain ⟨whole, fraction, zeros, hspells, hvalue, hlength, hzeros⟩ :=
      exists_spells_pointChars (Leading.of_pos hpos)
    refine ⟨whole, fraction, none, hspells, ?_⟩
    rw [hvalue, value_ofNat, Decimal.value, Nat.mul_assoc, ← Nat.pow_add, Option.getD_none]
    congr 2
    omega
  · obtain ⟨whole, fraction, hspells, hwhole, hlength⟩ :=
      exists_spells_exponentChars (Leading.of_pos hpos)
    refine ⟨whole, fraction, _, hspells, ?_⟩
    rw [hwhole, value_ofNat, hlength, Decimal.value, Option.getD_some]
    congr 2
    omega

/-! ### Numbers -/

/-- Characters with a minus sign before them, if there is one. -/
def signed (negative : Bool) (cs : List Char) : List Char := if negative then '-' :: cs else cs

theorem mem_signed {negative : Bool} {cs : List Char} {c : Char} (hc : c ∈ signed negative cs) :
    c = '-' ∨ c ∈ cs := by
  cases negative with
  | false => exact .inr hc
  | true => exact List.mem_cons.mp hc

theorem integerChars_eq (n : Int) :
    integerChars n = signed (decide (n < 0)) (Digits.ofNat n.natAbs) := by
  unfold integerChars signed
  simp only [decide_eq_true_eq]

/-- A magnitude as text. -/
def magnitudeChars (magnitude : Nat) : List Char :=
  if magnitude = 0 then ['0', '.', '0'] else decimalChars (Decimal.shortest magnitude)

theorem floatChars_eq {x : Binary64} (h : x.isFinite = true) :
    floatChars x = signed x.negative (magnitudeChars x.magnitude) := by
  unfold floatChars signed magnitudeChars Binary64.isZero
  simp only [h, if_true, decide_eq_true_eq]

theorem floatChars_of_not_finite {x : Binary64} (h : x.isFinite = false) :
    floatChars x = ['n', 'u', 'l', 'l'] := by
  simp [floatChars, h]

/-- The parts of a magnitude say what its shortest decimal stands for. -/
theorem exists_spells_magnitudeChars (magnitude : Nat) :
    ∃ whole fraction exponent, Spells (magnitudeChars magnitude) whole fraction exponent ∧
      value (whole ++ fraction) *
          10 ^ (exponent.getD 0 - fraction.length + Decimal.finest).toNat =
        if magnitude = 0 then 0 else (Decimal.shortest magnitude).value := by
  unfold magnitudeChars
  split
  · have hzero : value (['0'] ++ ['0']) = 0 := rfl
    refine ⟨['0'], ['0'], none, ⟨rfl, .inl rfl, ?_, .inl (List.cons_ne_nil _ _)⟩, ?_⟩
    · simp [show isDigit '0' = true from rfl]
    · rw [hzero, Nat.zero_mul]
  · next hzero =>
    exact exists_spells_decimalChars (Decimal.shortest_digits_pos (Nat.pos_of_ne_zero hzero))
      (Decimal.shortest_exponent magnitude)

/-- Besides digits, there are only points, signs and the letter of an exponent in a number. -/
theorem Number.mem_chars {n : Number} {c : Char} (hc : c ∈ n.chars) :
    isDigit c = true ∨ c ∈ ['.', 'e', '-', '+'] := by
  cases n with
  | integer n =>
      rw [Number.chars, integerChars_eq] at hc
      rcases mem_signed hc with rfl | hc
      · exact .inr (by decide)
      · exact .inl (isDigit_of_mem_ofNat hc)
  | float x finite =>
      rw [Number.chars, floatChars_eq finite] at hc
      rcases mem_signed hc with rfl | hc
      · exact .inr (by decide)
      · obtain ⟨_, _, _, hspells, -⟩ := exists_spells_magnitudeChars x.magnitude
        exact hspells.mem_cases hc

end Json

end SignedPayments
