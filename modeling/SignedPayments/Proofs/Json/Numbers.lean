import SignedPayments.Proofs.Json.Spelled
import SignedPayments.Proofs.Text.Scan

/-!
# SignedPayments.Proofs.Json.Numbers

What the text of a number tells: whether it is an integer or a finite floating point number, and
which one, zeros of both signs included (`Number.chars_inj`).

A decimal is read from its text by its three parts (`valueOf`), and what is read is what it
stands for (`valueOf_magnitudeChars`). Of what the shortest decimal stands for, the number can
be told. A point or the letter of an exponent tells it from an integer.
-/

namespace SignedPayments

namespace Json

open Digits

/-! ### Reading decimals -/

/-- The digits of a fraction, if the characters begin with a point. -/
def fractionDigits : List Char → List Char
  | '.' :: cs => cs.takeWhile isDigit
  | _ => []

/-- What follows the fraction, if there is one. -/
def afterFraction : List Char → List Char
  | '.' :: cs => cs.dropWhile isDigit
  | cs => cs

/-- The exponent that characters give, zero if they give none. -/
def exponentOf : List Char → Int
  | 'e' :: '-' :: digits => -(value digits : Int)
  | 'e' :: _ :: digits => value digits
  | _ => 0

/-- What the text of a decimal stands for, in units of the finest grid. -/
def valueOf (cs : List Char) : Nat :=
  let rest := cs.dropWhile isDigit
  let fraction := fractionDigits rest
  value (cs.takeWhile isDigit ++ fraction) *
    10 ^ (exponentOf (afterFraction rest) - fraction.length + Decimal.finest).toNat

theorem exponentOf_exponentTail (exponent : Option Int) :
    exponentOf (exponentTail exponent) = exponent.getD 0 := by
  cases exponent with
  | none => rfl
  | some exponent =>
      rw [exponentTail]
      by_cases hnegative : exponent < 0
      · rw [if_pos hnegative]
        show -(value (Digits.ofNat exponent.natAbs) : Int) = exponent
        rw [value_ofNat]
        omega
      · rw [if_neg hnegative]
        show (value (Digits.ofNat exponent.natAbs) : Int) = exponent
        rw [value_ofNat]
        omega

namespace Spells

variable {cs whole fraction : List Char} {exponent : Option Int}

/-- After the whole digits stands a point or the letter of an exponent. -/
theorem exists_mark (h : Spells cs whole fraction exponent) :
    ∃ c rest, isDigit c = false ∧ cs = whole ++ c :: rest ∧
      fractionDigits (c :: rest) = fraction ∧ afterFraction (c :: rest) = exponentTail exponent := by
  have hstop : ∀ c ∈ (exponentTail exponent).head?, isDigit c = false := by
    cases exponent with
    | none => simp [exponentTail]
    | some exponent => simp [exponentTail, show isDigit 'e' = false from rfl]
  by_cases hnone : fraction = []
  · obtain ⟨e, rfl⟩ :=
      Option.ne_none_iff_exists'.mp (h.marked.resolve_left fun hne => hne hnone)
    exact ⟨'e', _, rfl, by rw [h.eq, if_pos hnone]; rfl, hnone.symm, rfl⟩
  · exact ⟨'.', fraction ++ exponentTail exponent, rfl, by rw [h.eq, if_neg hnone]; rfl,
      takeWhile_append_stop h.fraction_digits hstop, dropWhile_append_stop h.fraction_digits hstop⟩

theorem valueOf_eq (h : Spells cs whole fraction exponent) :
    valueOf cs = value (whole ++ fraction) *
      10 ^ (exponent.getD 0 - fraction.length + Decimal.finest).toNat := by
  obtain ⟨c, rest, hc, hcs, hfraction, htail⟩ := h.exists_mark
  have hstop : ∀ d ∈ (c :: rest).head?, isDigit d = false := by simpa using hc
  unfold valueOf
  dsimp only
  rw [hcs, takeWhile_append_stop h.whole_digits hstop, dropWhile_append_stop h.whole_digits hstop,
    hfraction, htail, exponentOf_exponentTail]

/-- Not all characters of a decimal are digits. -/
theorem exists_not_digit (h : Spells cs whole fraction exponent) : ∃ c ∈ cs, isDigit c = false := by
  obtain ⟨c, rest, hc, rfl, -⟩ := h.exists_mark
  exact ⟨c, by simp, hc⟩

end Spells

theorem valueOf_magnitudeChars (magnitude : Nat) : valueOf (magnitudeChars magnitude) =
    if magnitude = 0 then 0 else (Decimal.shortest magnitude).value := by
  obtain ⟨_, _, _, hspells, hvalue⟩ := exists_spells_magnitudeChars magnitude
  exact hspells.valueOf_eq.trans hvalue

/-! ### Signs -/

/-- Where a digit would stand, a minus sign can be told. -/
theorem signed_inj {negative negative' : Bool} {cs ds : List Char}
    (hcs : ∀ c ∈ cs.head?, isDigit c = true) (hds : ∀ c ∈ ds.head?, isDigit c = true)
    (h : signed negative cs = signed negative' ds) : negative = negative' ∧ cs = ds := by
  have hminus : isDigit '-' = false := rfl
  cases negative with
  | false =>
      cases negative' with
      | false => exact ⟨rfl, h⟩
      | true =>
          have hdigit := hcs '-' (by rw [show cs = '-' :: ds from h]; rfl)
          exact absurd (hminus.symm.trans hdigit) (by decide)
  | true =>
      cases negative' with
      | false =>
          have hdigit := hds '-' (by rw [show ds = '-' :: cs from h.symm]; rfl)
          exact absurd (hminus.symm.trans hdigit) (by decide)
      | true => exact ⟨rfl, (List.cons.inj h).2⟩

theorem head?_ofNat (n : Nat) : ∀ c ∈ (Digits.ofNat n).head?, isDigit c = true :=
  fun _ hc => isDigit_of_mem_ofNat (List.mem_of_head? hc)

theorem head?_magnitudeChars (magnitude : Nat) :
    ∀ c ∈ (magnitudeChars magnitude).head?, isDigit c = true := by
  obtain ⟨_, _, _, hspells, -⟩ := exists_spells_magnitudeChars magnitude
  obtain ⟨d, rest, hcs, hd⟩ := hspells.exists_digit
  simpa [hcs] using hd

/-- Signed text that has a digit first begins with a minus sign or that digit. -/
theorem exists_signed_cons (negative : Bool) {cs : List Char} (hne : cs ≠ [])
    (hcs : ∀ c ∈ cs.head?, isDigit c = true) :
    ∃ c rest, signed negative cs = c :: rest ∧ (c = '-' ∨ isDigit c = true) := by
  obtain ⟨d, rest, rfl⟩ := List.exists_cons_of_ne_nil hne
  cases negative with
  | false => exact ⟨d, rest, rfl, .inr (hcs d rfl)⟩
  | true => exact ⟨'-', _, rfl, .inl rfl⟩

/-! ### Numbers -/

theorem integerChars_inj {m n : Int} (h : integerChars m = integerChars n) : m = n := by
  rw [integerChars_eq, integerChars_eq] at h
  obtain ⟨hsign, hdigits⟩ := signed_inj (head?_ofNat _) (head?_ofNat _) h
  rw [ofNat_inj] at hdigits
  rw [decide_eq_decide] at hsign
  omega

/-- A magnitude is told by its text. -/
theorem magnitudeChars_inj {magnitude magnitude' : Nat}
    (h : magnitudeChars magnitude = magnitudeChars magnitude') : magnitude = magnitude' := by
  have hvalue := congrArg valueOf h
  rw [valueOf_magnitudeChars, valueOf_magnitudeChars] at hvalue
  by_cases hzero : magnitude = 0
  · by_cases hzero' : magnitude' = 0
    · omega
    · rw [if_pos hzero, if_neg hzero'] at hvalue
      have hpos := Decimal.shortest_value_pos (Nat.pos_of_ne_zero hzero')
      omega
  · by_cases hzero' : magnitude' = 0
    · rw [if_neg hzero, if_pos hzero'] at hvalue
      have hpos := Decimal.shortest_value_pos (Nat.pos_of_ne_zero hzero)
      omega
    · rw [if_neg hzero, if_neg hzero'] at hvalue
      exact Decimal.shortest_value_inj (Nat.pos_of_ne_zero hzero) (Nat.pos_of_ne_zero hzero') hvalue

/-- The text of a number is that of no other one, zero of the other sign included. -/
theorem floatChars_inj {x y : Binary64} (hx : x.isFinite = true) (hy : y.isFinite = true)
    (h : floatChars x = floatChars y) : x = y := by
  rw [floatChars_eq hx, floatChars_eq hy] at h
  obtain ⟨hsign, hmagnitude⟩ := signed_inj (head?_magnitudeChars _) (head?_magnitudeChars _) h
  obtain ⟨negative, magnitude, hlt⟩ := x
  obtain ⟨negative', magnitude', hlt'⟩ := y
  obtain rfl : negative = negative' := hsign
  obtain rfl : magnitude = magnitude' := magnitudeChars_inj hmagnitude
  rfl

/-- The text of a floating point number is that of no integer. -/
theorem integerChars_ne_floatChars {n : Int} {x : Binary64} (hx : x.isFinite = true) :
    integerChars n ≠ floatChars x := by
  intro h
  rw [integerChars_eq, floatChars_eq hx] at h
  obtain ⟨-, hdigits⟩ := signed_inj (head?_ofNat _) (head?_magnitudeChars _) h
  obtain ⟨_, _, _, hspells, -⟩ := exists_spells_magnitudeChars x.magnitude
  obtain ⟨c, hc, hnot⟩ := hspells.exists_not_digit
  rw [← hdigits] at hc
  exact absurd (hnot.symm.trans (isDigit_of_mem_ofNat hc)) (by decide)

/-- The text of a number begins with a minus sign or a digit. -/
theorem Number.exists_chars (n : Number) :
    ∃ c rest, n.chars = c :: rest ∧ (c = '-' ∨ isDigit c = true) := by
  cases n with
  | integer n =>
      rw [Number.chars, integerChars_eq]
      exact exists_signed_cons _ Nat.toDigits_ne_nil (head?_ofNat _)
  | float x finite =>
      obtain ⟨_, _, _, hspells, -⟩ := exists_spells_magnitudeChars x.magnitude
      obtain ⟨d, rest, hcs, -⟩ := hspells.exists_digit
      rw [Number.chars, floatChars_eq finite]
      exact exists_signed_cons _ (by simp [hcs]) (head?_magnitudeChars _)

/-- The text of a number tells its kind and the number. -/
theorem Number.chars_inj {m n : Number} (h : m.chars = n.chars) : m = n := by
  cases m with
  | integer m =>
      cases n with
      | integer n => rw [integerChars_inj h]
      | float y finite => exact absurd h (integerChars_ne_floatChars finite)
  | float x finite =>
      cases n with
      | integer n => exact absurd h.symm (integerChars_ne_floatChars finite)
      | float y finite' =>
          obtain rfl := floatChars_inj finite finite' h
          rfl

end Json

end SignedPayments
