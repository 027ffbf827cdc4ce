/-!
# SignedPayments.Proofs.Text.Scan

Scans of characters: what passes is taken, and the rest begins where something does not.

Characters that are written one by one, each in a form that a reader can take from the front of
a text, end where the reader finds none (`flatMap_append_inj`).
-/

namespace SignedPayments

section Scan

variable {p : Char → Bool} {xs ys : List Char}

/-- A scan takes what passes, and stops at the first character that does not. -/
theorem takeWhile_append_stop (hxs : ∀ c ∈ xs, p c = true) (hys : ∀ c ∈ ys.head?, p c = false) :
    (xs ++ ys).takeWhile p = xs := by
  rw [List.takeWhile_append_of_pos hxs]
  cases ys with
  | nil => simp
  | cons c ys => simp [hys c rfl]

theorem takeWhile_eq_self (hxs : ∀ c ∈ xs, p c = true) : xs.takeWhile p = xs := by
  rw [← List.append_nil xs, List.takeWhile_append_of_pos hxs, List.takeWhile_nil]

theorem dropWhile_append_stop (hxs : ∀ c ∈ xs, p c = true) (hys : ∀ c ∈ ys.head?, p c = false) :
    (xs ++ ys).dropWhile p = ys := by
  rw [List.dropWhile_append_of_pos hxs]
  cases ys with
  | nil => rfl
  | cons c ys => simp [hys c rfl]

theorem pass_of_mem_takeWhile {c : Char} (hc : c ∈ xs.takeWhile p) : p c = true :=
  List.all_eq_true.mp List.all_takeWhile c hc

theorem stop_of_mem_head?_dropWhile {c : Char} (hc : c ∈ (xs.dropWhile p).head?) : p c = false := by
  have hnot := List.head?_dropWhile_not p xs
  rw [Option.mem_def] at hc
  simpa [hc] using hnot

end Scan

section Forms

variable {form : Char → List Char} {read? : List Char → Option (Char × List Char)} {stop : Char}

/-- If a reader takes each character as it is written, and none at a stop, then a text up to a
stop is told by how it is written. -/
theorem flatMap_append_inj (hread : ∀ c rest, read? (form c ++ rest) = some (c, rest))
    (hstop : ∀ rest, read? (stop :: rest) = none) {s t r r' : List Char}
    (h : s.flatMap form ++ stop :: r = t.flatMap form ++ stop :: r') : s = t ∧ r = r' := by
  induction s generalizing t with
  | nil =>
      cases t with
      | nil => simpa using h
      | cons d t =>
          have hfirst := congrArg read? h
          rw [List.flatMap_nil, List.nil_append, hstop, List.flatMap_cons, List.append_assoc,
            hread] at hfirst
          cases hfirst
  | cons c s ih =>
      cases t with
      | nil =>
          have hfirst := congrArg read? h
          rw [List.flatMap_nil, List.nil_append, hstop, List.flatMap_cons, List.append_assoc,
            hread] at hfirst
          cases hfirst
      | cons d t =>
          have hfirst := congrArg read? h
          simp only [List.flatMap_cons, List.append_assoc, hread, Option.some.injEq,
            Prod.mk.injEq] at hfirst
          obtain ⟨rfl, hrest⟩ := hfirst
          obtain ⟨rfl, rfl⟩ := ih hrest
          exact ⟨rfl, rfl⟩

end Forms

end SignedPayments
