import SignedPayments.Proofs.Text.Digits
import SignedPayments.Proofs.Text.Scan
import SignedPayments.Text.Blank

/-!
# SignedPayments.Proofs.Text.Blank

What trimming takes away: the blanks at both ends of a text (`exists_blanks`), and nothing
of what stands between them if that neither begins nor ends with one (`trim_blanks`).
-/

namespace SignedPayments

/-- All of the characters are blanks. -/
def AllBlank (cs : List Char) : Prop := ∀ c ∈ cs, isBlank c = true

theorem isBlank_of_isDigit {c : Char} (h : Digits.isDigit c = true) : isBlank c = false := by
  rw [Digits.isDigit_iff] at h
  simp [isBlank]
  omega

theorem AllBlank.reverse {cs : List Char} (h : AllBlank cs) : AllBlank cs.reverse :=
  fun c hc => h c (List.mem_reverse.mp hc)

/-- Nothing is trimmed from characters that do not begin with a blank. -/
theorem trimFront_eq_self {cs : List Char} (h : ∀ c ∈ cs.head?, isBlank c = false) :
    trimFront cs = cs := by
  cases cs with
  | nil => rfl
  | cons c cs => simp [trimFront, h c rfl]

/-- Blanks at the front are trimmed, whatever follows them. -/
theorem trimFront_append {blanks : List Char} (h : AllBlank blanks) (cs : List Char) :
    trimFront (blanks ++ cs) = trimFront cs :=
  List.dropWhile_append_of_pos h

theorem exists_trimFront (cs : List Char) :
    ∃ blanks, AllBlank blanks ∧ cs = blanks ++ trimFront cs :=
  ⟨cs.takeWhile isBlank, fun _ hc => pass_of_mem_takeWhile hc,
    List.takeWhile_append_dropWhile.symm⟩

/-- Of a text between blanks, the text is left. -/
theorem trim_blanks {front cs back : List Char} (hfront : AllBlank front) (hback : AllBlank back)
    (hfirst : ∀ c ∈ cs.head?, isBlank c = false) (hlast : ∀ c ∈ cs.getLast?, isBlank c = false) :
    trim (front ++ cs ++ back) = cs := by
  cases cs with
  | nil =>
      have hall : AllBlank (front ++ [] ++ back) := by
        intro c hc
        rw [List.append_nil, List.mem_append] at hc
        exact hc.elim (hfront c) (hback c)
      have hnothing := trimFront_append hall []
      rw [List.append_nil] at hnothing
      rw [trim, hnothing]
      rfl
  | cons c cs =>
      have hrest : trimFront (front ++ (c :: cs) ++ back) = (c :: cs) ++ back := by
        rw [List.append_assoc, trimFront_append hfront]
        exact trimFront_eq_self hfirst
      rw [trim, hrest, List.reverse_append, trimFront_append hback.reverse, trimFront_eq_self,
        List.reverse_reverse]
      rw [List.head?_reverse]
      exact hlast

/-- What is trimmed from a text are blanks at its ends. -/
theorem exists_blanks (cs : List Char) :
    ∃ front back, AllBlank front ∧ AllBlank back ∧ cs = front ++ trim cs ++ back := by
  obtain ⟨front, hfront, hcs⟩ := exists_trimFront cs
  obtain ⟨back, hback, hrest⟩ := exists_trimFront (trimFront cs).reverse
  refine ⟨front, back.reverse, hfront, hback.reverse, ?_⟩
  have htrim : trimFront cs = trim cs ++ back.reverse := by
    rw [trim, ← List.reverse_append, ← hrest, List.reverse_reverse]
  rw [List.append_assoc, ← htrim]
  exact hcs

end SignedPayments
