import SignedPayments.Json.Writer
import SignedPayments.Proofs.Text.Hex
import SignedPayments.Proofs.Text.Scan

/-!
# SignedPayments.Proofs.Json.Quoting

A written string stops at its own closing quote, whatever characters it holds and
whatever follows it: of a text that begins with a written string, both the string
and the rest can be told (`stringChars_append_inj`).

The reader `unescape?` takes one character as it was written. That it undoes
`escape` (`unescape?_escape`) is all that the induction over a string needs.
-/

namespace SignedPayments

namespace Json

/-- The character that a backslash and one more character stand for; `u` is not among
them. -/
def unescapeSimple (c : Char) : Char :=
  if c = 'b' then '\x08'
  else if c = 'f' then '\x0c'
  else if c = 'n' then '\n'
  else if c = 'r' then '\r'
  else if c = 't' then '\t'
  else c

/-- Reads one character of a written string, and gives the rest. There is none at the
closing quote. -/
def unescape? : List Char → Option (Char × List Char)
  | '\\' :: 'u' :: _ :: _ :: hi :: lo :: rest => do
    let h ← Hex.digitValue? hi
    let l ← Hex.digitValue? lo
    return (Char.ofNat (16 * h + l), rest)
  | '\\' :: c :: rest => some (unescapeSimple c, rest)
  | '"' :: _ => none
  | c :: rest => some (c, rest)
  | [] => none

/-- A character that is no quote and no backslash stands for itself. -/
theorem unescape?_cons {c : Char} (hquote : c ≠ '"') (hslash : c ≠ '\\') (rest : List Char) :
    unescape? (c :: rest) = some (c, rest) := by
  rw [unescape?.eq_def]
  split <;> simp_all

/-- A control that has no short form. -/
theorem unescape?_control {c : Char} (h : c.toNat < 0x20) (rest : List Char) :
    unescape? ('\\' :: 'u' :: '0' :: '0' :: Hex.digit (c.toNat / 16) :: Hex.digit (c.toNat % 16) ::
      rest) = some (c, rest) := by
  have hvalue : 16 * (c.toNat / 16) + c.toNat % 16 = c.toNat := by omega
  simp only [unescape?, Hex.digitValue?_digit (n := c.toNat / 16) (by omega),
    Hex.digitValue?_digit (n := c.toNat % 16) (by omega)]
  simp [hvalue]

/-- Reading a character undoes writing it. -/
theorem unescape?_escape (c : Char) (rest : List Char) :
    unescape? (escape c ++ rest) = some (c, rest) := by
  unfold escape
  split
  · next h => subst h; rfl
  split
  · next h => subst h; rfl
  split
  · next h => subst h; rfl
  split
  · next h => subst h; rfl
  split
  · next h => subst h; rfl
  split
  · next h => subst h; rfl
  split
  · next h => subst h; rfl
  split
  · next h => exact unescape?_control h rest
  · next hquote hslash _ _ _ _ _ _ => exact unescape?_cons hquote hslash rest

/-- A written string stops at its own closing quote. -/
theorem stringChars_append_inj {s t : String} {r r' : List Char}
    (h : stringChars s ++ r = stringChars t ++ r') : s = t ∧ r = r' := by
  simp only [stringChars, List.cons_append, List.append_assoc, List.nil_append,
    List.cons.injEq, true_and] at h
  obtain ⟨hs, hr⟩ := flatMap_append_inj unescape?_escape (fun _ => rfl) h
  exact ⟨String.toList_inj.mp hs, hr⟩

end Json

end SignedPayments
