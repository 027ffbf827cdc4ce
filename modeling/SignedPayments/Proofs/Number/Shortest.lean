import SignedPayments.Number.Shortest

/-!
# SignedPayments.Proofs.Number.Shortest

The shortest decimal of a number rounds to that number (`roundsTo_shortest`), and a decimal
rounds to one number at most (`roundsTo_unique`). So a number is told by what its shortest
decimal stands for.

Magnitudes are in the order of what they stand for (`fine_lt_fine`), and what rounds to one lies
between its neighbours. Only an end that two of them share could belong to both, and of these two
one is odd, to which no end belongs.
-/

namespace SignedPayments

namespace Decimal

variable {magnitude magnitude' x : Nat}

/-! ### The order of magnitudes -/

/-- The next magnitude stands for more. Where the exponent changes, the significand begins
anew at half of what it would have come to, and is doubled once more. -/
theorem units_lt_succ (magnitude : Nat) :
    Binary64.units magnitude < Binary64.units (magnitude + 1) := by
  unfold Binary64.units Binary64.significand Binary64.scale
  by_cases hsmall : magnitude < 2 ^ 52
  · have hscale : magnitude / 2 ^ 52 - 1 = 0 := by omega
    have hscale' : (magnitude + 1) / 2 ^ 52 - 1 = 0 := by omega
    rw [hscale, hscale', if_pos hsmall]
    split <;> omega
  · have hpos : 0 < 2 ^ (magnitude / 2 ^ 52 - 1) := Nat.pow_pos (by decide)
    rw [if_neg hsmall, if_neg (by omega)]
    by_cases hlast : magnitude % 2 ^ 52 = 2 ^ 52 - 1
    · have hscale : (magnitude + 1) / 2 ^ 52 - 1 = magnitude / 2 ^ 52 - 1 + 1 := by omega
      have hfirst : (magnitude + 1) % 2 ^ 52 = 0 := by omega
      rw [hscale, hfirst, hlast, Nat.pow_succ (2) (magnitude / 2 ^ 52 - 1)]
      omega
    · have hscale : (magnitude + 1) / 2 ^ 52 = magnitude / 2 ^ 52 := by omega
      rw [hscale]
      exact Nat.mul_lt_mul_of_pos_right (by omega) hpos

theorem fine_lt_succ (magnitude : Nat) : fine magnitude < fine (magnitude + 1) :=
  Nat.mul_lt_mul_of_pos_right (units_lt_succ magnitude) (Nat.pow_pos (by decide))

theorem fine_le_fine (h : magnitude ≤ magnitude') : fine magnitude ≤ fine magnitude' := by
  induction h with
  | refl => exact Nat.le_refl _
  | step _ ih => exact Nat.le_trans ih (Nat.le_of_lt (fine_lt_succ _))

theorem fine_lt_fine (h : magnitude < magnitude') : fine magnitude < fine magnitude' :=
  Nat.lt_of_lt_of_le (fine_lt_succ _) (fine_le_fine h)

theorem fine_pos (h : 0 < magnitude) : 0 < fine magnitude :=
  Nat.lt_of_le_of_lt (Nat.zero_le _) (fine_lt_fine h)

/-! ### What rounds to a magnitude -/

/-- What rounds to a magnitude lies halfway to its neighbours at most, and nearer than that if
the magnitude is odd. -/
theorem roundsTo_iff : roundsTo magnitude x = true ↔
    (fine (magnitude - 1) + fine magnitude ≤ 2 * x ∧ 2 * x ≤ fine magnitude + fine (magnitude + 1)) ∧
      (magnitude % 2 = 1 → 2 * x ≠ fine (magnitude - 1) + fine magnitude ∧
        2 * x ≠ fine magnitude + fine (magnitude + 1)) := by
  unfold roundsTo
  dsimp only
  split
  · simp only [Bool.and_eq_true, decide_eq_true_eq]
    omega
  · simp only [Bool.and_eq_true, decide_eq_true_eq]
    omega

/-- What rounds to a magnitude does not round to a larger one. -/
theorem le_of_roundsTo (h : roundsTo magnitude x = true) (h' : roundsTo magnitude' x = true) :
    magnitude' ≤ magnitude := by
  refine Nat.le_of_not_lt fun hlt => ?_
  obtain ⟨⟨-, hhigh⟩, hodd⟩ := roundsTo_iff.mp h
  obtain ⟨⟨hlow, -⟩, hodd'⟩ := roundsTo_iff.mp h'
  by_cases hnext : magnitude' = magnitude + 1
  · subst hnext
    rw [Nat.add_sub_cancel] at hlow hodd'
    omega
  · have hbelow := fine_le_fine (Nat.le_sub_one_of_lt hlt)
    have habove : fine (magnitude + 1) < fine magnitude' := fine_lt_fine (by omega)
    omega

/-- A decimal rounds to one magnitude at most. -/
theorem roundsTo_unique (h : roundsTo magnitude x = true) (h' : roundsTo magnitude' x = true) :
    magnitude = magnitude' :=
  Nat.le_antisymm (le_of_roundsTo h' h) (le_of_roundsTo h h')

/-- Every magnitude rounds to itself. -/
theorem roundsTo_fine (h : 0 < magnitude) : roundsTo magnitude (fine magnitude) = true := by
  have hbelow : fine (magnitude - 1) < fine magnitude := fine_lt_fine (by omega)
  have habove := fine_lt_succ magnitude
  rw [roundsTo_iff]
  omega

/-- Zero rounds to nothing else. -/
theorem not_roundsTo_zero (h : 0 < magnitude) : roundsTo magnitude 0 = false := by
  have hfine := fine_pos h
  rw [Bool.eq_false_iff, ne_eq, roundsTo_iff]
  omega

/-! ### What the search finds -/

theorem roundsTo_of_onGrid? {step digits : Nat} (h : onGrid? magnitude x step = some digits) :
    roundsTo magnitude (digits * step) = true := by
  unfold onGrid? at h
  dsimp only at h
  split at h
  · next hbelow habove =>
    split at h
    · cases h
      exact hbelow
    split at h
    · cases h
      exact habove
    split at h
    · cases h
      exact hbelow
    · cases h
      exact habove
  · next hbelow _ =>
    cases h
    exact hbelow
  · next _ habove =>
    cases h
    exact habove
  · cases h

theorem roundsTo_search (h : roundsTo magnitude x = true) (grid : Nat) :
    roundsTo magnitude ((search magnitude x grid).1 * 10 ^ (search magnitude x grid).2) = true := by
  induction grid with
  | zero => simpa [search] using h
  | succ grid ih =>
      unfold search
      split
      · next hdigits => exact roundsTo_of_onGrid? hdigits
      · exact ih

/-- What a decimal stands for, in units of the finest grid. -/
def value (d : Decimal) : Nat := d.digits * 10 ^ (d.exponent + finest).toNat

/-- The grid of the shortest decimal is not finer than the finest one. -/
theorem shortestFrom_exponent (magnitude x : Nat) :
    0 ≤ (shortestFrom magnitude x).exponent + finest := by
  unfold shortestFrom
  dsimp only
  rw [Int.sub_add_cancel]
  exact Int.natCast_nonneg _

theorem roundsTo_shortestFrom (h : roundsTo magnitude x = true) :
    roundsTo magnitude (shortestFrom magnitude x).value = true := by
  unfold value shortestFrom
  dsimp only
  rw [Int.sub_add_cancel, Int.toNat_natCast]
  exact roundsTo_search h _

theorem shortest_exponent (magnitude : Nat) : 0 ≤ (shortest magnitude).exponent + finest :=
  shortestFrom_exponent _ _

theorem roundsTo_shortest (h : 0 < magnitude) :
    roundsTo magnitude (shortest magnitude).value = true :=
  roundsTo_shortestFrom (roundsTo_fine h)

/-- The decimal of a number above zero is not zero. -/
theorem shortest_value_pos (h : 0 < magnitude) : 0 < (shortest magnitude).value := by
  refine Nat.pos_of_ne_zero fun hzero => ?_
  have hrounds := roundsTo_shortest h
  rw [hzero, not_roundsTo_zero h] at hrounds
  cases hrounds

theorem shortest_digits_pos (h : 0 < magnitude) : 0 < (shortest magnitude).digits :=
  Nat.pos_of_mul_pos_right (shortest_value_pos h)

/-- A number is told by what its shortest decimal stands for. -/
theorem shortest_value_inj (h : 0 < magnitude) (h' : 0 < magnitude')
    (hvalue : (shortest magnitude).value = (shortest magnitude').value) :
    magnitude = magnitude' :=
  roundsTo_unique (roundsTo_shortest h) (hvalue ▸ roundsTo_shortest h')

end Decimal

end SignedPayments
