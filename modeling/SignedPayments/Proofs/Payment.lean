import SignedPayments.Call
import SignedPayments.Proofs.Json.Distinct

/-!
# SignedPayments.Proofs.Payment

What the body of a payment or a refund tells. All of what was asked for can be told from it, but
for an amount that is no number: all of these are written `null` (`Body.write_tells`). The fields
stand between fixed names and are read off from the front: a string ends at its closing quote,
and any other text at the mark after it.
-/

namespace SignedPayments

open Json

/-- Whether amounts are written the same: they have the same bits, or neither is finite. -/
def SameAmount (x y : Binary64) : Prop :=
  x = y ∨ (x.isFinite = false ∧ y.isFinite = false)

/-- The text of an amount tells its bits, if it is finite. -/
theorem floatChars_eq_iff {x y : Binary64} : floatChars x = floatChars y ↔ SameAmount x y := by
  have hne : ∀ z : Binary64, z.isFinite = true → floatChars z ≠ ['n', 'u', 'l', 'l'] := by
    intro z hz hchars
    obtain ⟨c, rest, hfirst, hc⟩ := (Number.float z hz).exists_chars
    rw [Number.chars, hchars] at hfirst
    obtain ⟨rfl, -⟩ := List.cons.inj hfirst
    exact absurd hc (by decide)
  constructor
  · intro h
    cases hx : x.isFinite with
    | true =>
        cases hy : y.isFinite with
        | true => exact .inl (floatChars_inj hx hy h)
        | false => exact absurd (h.trans (floatChars_of_not_finite hy)) (hne x hx)
    | false =>
        cases hy : y.isFinite with
        | true => exact absurd (h.symm.trans (floatChars_of_not_finite hx)) (hne y hy)
        | false => exact .inr ⟨hx, hy⟩
  · rintro (rfl | ⟨hx, hy⟩)
    · rfl
    · rw [floatChars_of_not_finite hx, floatChars_of_not_finite hy]

/-! ### Fields -/

theorem accepts_floatChars (x : Binary64) : Scan.accepts (Utf8.encode (floatChars x)) = true := by
  obtain ⟨t, ht, hreads⟩ := Scan.reads_floatChars x []
  exact accepts_of_reads hreads ht

/-- An amount ends at the comma after it. -/
theorem floatChars_append_inj {x y : Binary64} {r r' : List Char}
    (h : floatChars x ++ ',' :: r = floatChars y ++ ',' :: r') : SameAmount x y ∧ r = r' := by
  obtain ⟨hamount, hrest⟩ :=
    append_mark_inj (.inl rfl) (.inl rfl) (accepts_floatChars x) (accepts_floatChars y) h
  exact ⟨floatChars_eq_iff.mp hamount, (List.cons.inj hrest).2⟩

/-- A string that may be missing is told from every other, also if it says `null` itself. -/
theorem stringChars?_append_inj {s t : Option String} {r r' : List Char}
    (h : stringChars? s ++ r = stringChars? t ++ r') : s = t ∧ r = r' := by
  cases s with
  | none =>
      cases t with
      | none => exact ⟨rfl, List.append_cancel_left h⟩
      | some t => cases (List.cons.inj h).1
  | some s =>
      cases t with
      | none => cases (List.cons.inj h).1
      | some t =>
          obtain ⟨rfl, hrest⟩ := stringChars_append_inj h
          exact ⟨rfl, hrest⟩

/-- An object that may be missing is told from every other, also from the empty one. -/
theorem objectChars?_inj {members members' : Option Json.Object}
    (h : objectChars? members = objectChars? members') : members = members' := by
  cases members with
  | none =>
      cases members' with
      | none => rfl
      | some members' => cases Value.chars_inj .null (.object members') h
  | some members =>
      cases members' with
      | none => cases Value.chars_inj (.object members) .null h
      | some members' => rw [Object.chars_inj h]

/-! ### Payments and refunds -/

/-- A payment is told by its text, up to an amount that is no number. -/
theorem Payment.chars_eq_iff {p q : Payment} : p.chars = q.chars ↔
    SameAmount p.amount q.amount ∧ p.currency = q.currency ∧ p.description = q.description ∧
      p.metadata = q.metadata := by
  have hname : ",\"currency\":".toList = ',' :: "\"currency\":".toList := by decide
  constructor
  · intro h
    unfold chars at h
    rw [hname] at h
    simp only [List.append_assoc, List.cons_append] at h
    obtain ⟨hamount, h⟩ := floatChars_append_inj (List.append_cancel_left h)
    obtain ⟨hcurrency, h⟩ := stringChars_append_inj (List.append_cancel_left h)
    obtain ⟨hdescription, h⟩ := stringChars?_append_inj (List.append_cancel_left h)
    have hmetadata := List.append_cancel_right (List.append_cancel_left h)
    exact ⟨hamount, hcurrency, hdescription, objectChars?_inj hmetadata⟩
  · intro ⟨hamount, hcurrency, hdescription, hmetadata⟩
    unfold chars
    rw [floatChars_eq_iff.mpr hamount, hcurrency, hdescription, hmetadata]

/-- A refund is told by its text, up to an amount that is no number. -/
theorem Refund.chars_eq_iff {r s : Refund} : r.chars = s.chars ↔
    r.paymentId = s.paymentId ∧ SameAmount r.amount s.amount ∧ r.reason = s.reason ∧
      r.metadata = s.metadata := by
  have hname : ",\"reason\":".toList = ',' :: "\"reason\":".toList := by decide
  constructor
  · intro h
    unfold chars at h
    rw [hname] at h
    simp only [List.append_assoc, List.cons_append] at h
    obtain ⟨hpayment, h⟩ := stringChars_append_inj (List.append_cancel_left h)
    obtain ⟨hamount, h⟩ := floatChars_append_inj (List.append_cancel_left h)
    obtain ⟨hreason, h⟩ := stringChars_append_inj (List.append_cancel_left h)
    have hmetadata := List.append_cancel_right (List.append_cancel_left h)
    exact ⟨hpayment, hamount, hreason, objectChars?_inj hmetadata⟩
  · intro ⟨hpayment, hamount, hreason, hmetadata⟩
    unfold chars
    rw [hpayment, floatChars_eq_iff.mpr hamount, hreason, hmetadata]

/-- Payments and refunds have different first fields. -/
theorem Payment.chars_ne_refund (p : Payment) (r : Refund) : p.chars ≠ r.chars := by
  intro h
  have hsecond := congrArg (List.take 3) h
  unfold Payment.chars Refund.chars at hsecond
  simp at hsecond

/-! ### Bodies -/

namespace Body

/-- The bytes of a body tell the payment or the refund that they ask for: bodies have the same
bytes exactly if they agree in all fields, where amounts agree if they have the same bits or
neither is a number. A field that is missing is told from all that are not, and nested values
from others down to the kind and the bits of each number. No payment is written as a refund. -/
theorem write_tells :
    (∀ p q : Payment, (Body.payment p).write = (Body.payment q).write ↔
      SameAmount p.amount q.amount ∧ p.currency = q.currency ∧ p.description = q.description ∧
        p.metadata = q.metadata) ∧
    (∀ r s : Refund, (Body.refund r).write = (Body.refund s).write ↔
      r.paymentId = s.paymentId ∧ SameAmount r.amount s.amount ∧ r.reason = s.reason ∧
        r.metadata = s.metadata) ∧
    ∀ (p : Payment) (r : Refund), (Body.payment p).write ≠ (Body.refund r).write := by
  have hbytes : ∀ cs ds : List Char,
      (.ok (Utf8.encode cs) : Except Json.Fault Bytes) = .ok (Utf8.encode ds) ↔ cs = ds := by
    intro cs ds
    rw [Except.ok.injEq, Utf8.encode_inj]
  refine ⟨fun p q => ?_, fun r s => ?_, fun p r => ?_⟩
  · exact (hbytes p.chars q.chars).trans Payment.chars_eq_iff
  · exact (hbytes r.chars s.chars).trans Refund.chars_eq_iff
  · exact fun h => p.chars_ne_refund r ((hbytes p.chars r.chars).mp h)

end Body

end SignedPayments
