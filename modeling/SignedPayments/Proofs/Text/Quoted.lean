import SignedPayments.Proofs.Text.Hex
import SignedPayments.Proofs.Text.Scan
import SignedPayments.Text.Quoted

/-!
# SignedPayments.Proofs.Text.Quoted

A quoted text can be read back: it stops at its own closing quote, whatever follows
(`quoted_append_inj`). So nothing of a text is hidden by quoting it.
-/

namespace SignedPayments

namespace Quoted

/-! ### Numbers -/

/-- The number that hexadecimal digits stand for. -/
def hexValue (ds : List Char) : Nat :=
  ds.foldl (fun n d => 16 * n + (Hex.digitValue? d).getD 0) 0

theorem digitValue?_digitChar {n : Nat} (h : n < 16) :
    Hex.digitValue? (Nat.digitChar n) = some n := by
  have hall : ∀ k < 16, Hex.digitValue? (Nat.digitChar k) = some k := by decide
  exact hall n h

theorem hexValue_hexDigits (n : Nat) : hexValue (hexDigits n) = n := by
  induction n using Nat.strongRecOn with
  | ind n ih =>
      rw [hexDigits, Nat.toDigits_eq_if (by decide)]
      split
      · next hn => simp [hexValue, digitValue?_digitChar hn]
      · next hn =>
        have hdiv := ih (n / 16) (by omega)
        rw [hexValue, List.foldl_append, ← hexDigits, ← hexValue, hdiv]
        simp only [List.foldl_cons, List.foldl_nil,
          digitValue?_digitChar (Nat.mod_lt n (by decide : 16 > 0)), Option.getD_some]
        omega

/-- Digits end at a brace. -/
theorem ne_brace_of_mem_hexDigits {n : Nat} {c : Char} (h : c ∈ hexDigits n) : c ≠ '\x7d' := by
  have hdigit : ∀ k < 16, Nat.digitChar k ≠ '\x7d' := by decide
  induction n using Nat.strongRecOn with
  | ind n ih =>
      rw [hexDigits, Nat.toDigits_eq_if (by decide)] at h
      split at h
      · next hn =>
        rw [List.mem_singleton.mp h]
        exact hdigit n hn
      · next hn =>
        rcases List.mem_append.mp h with h | h
        · exact ih (n / 16) (by omega) h
        · rw [List.mem_singleton.mp h]
          exact hdigit (n % 16) (by omega)

/-! ### Characters -/

/-- The character that a backslash and one more character stand for, if that is not `u`. -/
def unescapeSimple (c : Char) : Char :=
  if c = '0' then '\x00'
  else if c = 't' then '\t'
  else if c = 'r' then '\r'
  else if c = 'n' then '\n'
  else c

/-- Reads one character of a quoted text, and gives the rest. There is none at the closing
quote. -/
def unescape? : List Char → Option (Char × List Char)
  | '\\' :: 'u' :: rest =>
    some (Char.ofNat (hexValue (rest.tail.takeWhile (· ≠ '\x7d'))),
      (rest.tail.dropWhile (· ≠ '\x7d')).tail)
  | '\\' :: c :: rest => some (unescapeSimple c, rest)
  | '"' :: _ => none
  | c :: rest => some (c, rest)
  | [] => none

/-- A character that is no quote and no backslash stands for itself. -/
theorem unescape?_cons {c : Char} (hquote : c ≠ '"') (hslash : c ≠ '\\') (rest : List Char) :
    unescape? (c :: rest) = some (c, rest) := by
  rw [unescape?.eq_def]
  split <;> simp_all

/-- A character that is shown by its number. -/
theorem unescape?_number (c : Char) (rest : List Char) :
    unescape? ('\\' :: 'u' :: '\x7b' :: (hexDigits c.toNat ++ '\x7d' :: rest)) = some (c, rest) := by
  have hdigits : ∀ d ∈ hexDigits c.toNat, decide (d ≠ '\x7d') = true := fun d hd =>
    decide_eq_true (ne_brace_of_mem_hexDigits hd)
  have hbrace : ∀ d ∈ ('\x7d' :: rest).head?, decide (d ≠ '\x7d') = false := by simp
  rw [unescape?, List.tail_cons, takeWhile_append_stop hdigits hbrace,
    dropWhile_append_stop hdigits hbrace, hexValue_hexDigits, Char.ofNat_toNat, List.tail_cons]

/-- Reading a character undoes escaping it. -/
theorem unescape?_escape (c : Char) (rest : List Char) :
    unescape? (escape c ++ rest) = some (c, rest) := by
  unfold escape
  split
  · next h => subst h; rfl
  split
  · next h => subst h; rfl
  split
  · next h => subst h; rfl
  split
  · next h => subst h; rfl
  split
  · next h => subst h; rfl
  split
  · next h => subst h; rfl
  split
  · rw [List.cons_append, List.cons_append, List.cons_append, List.append_assoc]
    exact unescape?_number c rest
  · next hquote hslash _ => exact unescape?_cons hquote hslash rest

end Quoted

/-- A quoted text stops at its own closing quote. -/
theorem quoted_append_inj {s t : String} {r r' : List Char}
    (h : (quoted s).toList ++ r = (quoted t).toList ++ r') : s = t ∧ r = r' := by
  simp only [quoted, String.toList_ofList, Quoted.body, List.cons_append, List.append_assoc,
    List.nil_append, List.cons.injEq, true_and] at h
  obtain ⟨hs, hr⟩ := flatMap_append_inj Quoted.unescape?_escape (fun _ => rfl) h
  exact ⟨String.toList_inj.mp hs, hr⟩

end SignedPayments
