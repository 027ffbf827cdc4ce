import SignedPayments.Json.Scan
import SignedPayments.Text.Utf8

/-!
# SignedPayments.Json.Raw

A JSON text kept as it was written: the bytes without the blanks around them,
which are known to be a text in UTF-8.
-/

namespace SignedPayments

namespace Json

/-- Bytes from the first one that is not blank on. -/
def trimFront (bytes : Bytes) : Bytes := bytes.dropWhile isBlankByte

/-- Bytes without the blanks at either end. -/
def trim (bytes : Bytes) : Bytes := (trimFront (trimFront bytes).reverse).reverse

theorem accepts_trimFront {bytes : Bytes} (h : Scan.accepts bytes = true) :
    Scan.accepts (trimFront bytes) = true := by
  induction bytes with
  | nil => exact h
  | cons b rest ih =>
    by_cases hb : isBlankByte b = true
    · simp only [trimFront, List.dropWhile_cons, hb, if_true]
      exact ih (Scan.accepts_of_cons_blank hb h)
    · simpa [trimFront, List.dropWhile_cons, hb] using h

theorem accepts_trimBack {bytes : Bytes} (h : Scan.accepts bytes.reverse = true) :
    Scan.accepts (trimFront bytes).reverse = true := by
  induction bytes with
  | nil => exact h
  | cons b rest ih =>
    by_cases hb : isBlankByte b = true
    · simp only [trimFront, List.dropWhile_cons, hb, if_true]
      exact ih (Scan.accepts_of_append_blank hb (by simpa using h))
    · simpa [trimFront, List.dropWhile_cons, hb] using h

/-- A text stays one without the blanks around it. -/
theorem accepts_trim {bytes : Bytes} (h : Scan.accepts bytes = true) :
    Scan.accepts (trim bytes) = true :=
  accepts_trimBack (by simpa using accepts_trimFront h)

theorem trimFront_eq_self_iff {bytes : Bytes} :
    trimFront bytes = bytes ↔ ∀ b ∈ bytes.head?, isBlankByte b = false := by
  cases bytes with
  | nil => simp [trimFront]
  | cons b rest =>
    by_cases hb : isBlankByte b = true
    · have : (rest.dropWhile isBlankByte).length ≤ rest.length :=
        (List.dropWhile_sublist _).length_le
      simp only [trimFront, List.dropWhile_cons, hb, if_true, List.head?_cons, Option.mem_def,
        Option.some.injEq, forall_eq', Bool.true_eq_false, iff_false]
      intro h
      have := congrArg List.length h
      simp only [List.length_cons] at this
      omega
    · simp [trimFront, hb]

theorem head?_trimFront {bytes : Bytes} : ∀ b ∈ (trimFront bytes).head?, isBlankByte b = false := by
  intro b hb
  have := List.head?_dropWhile_not isBlankByte bytes
  simp only [trimFront, Option.mem_def] at hb
  simpa [hb] using this

/-- Nothing is left to trim. -/
theorem trim_trim (bytes : Bytes) : trim (trim bytes) = trim bytes := by
  have hfront : trimFront (trim bytes) = trim bytes := by
    rw [trimFront_eq_self_iff]
    have hsplit : trimFront bytes =
        trim bytes ++ ((trimFront bytes).reverse.takeWhile isBlankByte).reverse := by
      simp only [trim, trimFront, ← List.reverse_append, List.takeWhile_append_dropWhile,
        List.reverse_reverse]
    cases ht : trim bytes with
    | nil => simp
    | cons c rest =>
      intro b hb
      refine @head?_trimFront bytes b ?_
      rw [hsplit, ht]
      simpa using hb
  have hback : trimFront (trim bytes).reverse = (trim bytes).reverse := by
    rw [trimFront_eq_self_iff]
    simp only [trim, List.reverse_reverse]
    exact head?_trimFront
  show (trimFront (trimFront (trim bytes)).reverse).reverse = trim bytes
  rw [hfront, hback, List.reverse_reverse]

/-- A JSON text as it was written. -/
structure Raw where
  bytes : Bytes
  accepted : Scan.accepts bytes = true
  chars : List Char
  decoded : Utf8.decode? bytes = some chars
  trimmed : trim bytes = bytes

namespace Raw

/-- A text as characters. -/
def text (raw : Raw) : String := String.ofList raw.chars

/-- The fault of bytes that are no UTF-8, if they are none. -/
def unicodeFault? (bytes : Bytes) : Option Fault :=
  let n := Utf8.wellFormedLength bytes
  if n < bytes.length then some (.after bytes (n + 1) .invalidUnicode) else none

/-- How much has been read when a fault is noticed. A control character in a string
is noticed before it is read, every other byte after. -/
def reached (bytes : Bytes) (reason : Reason) (offset : Nat) : Nat :=
  if reason = .controlCharacter then offset else min (offset + 1) bytes.length

/-- Reads a JSON text and keeps it. When something follows the text, what is wrong
inside it is told first. -/
def read (bytes : Bytes) : Except Fault Raw :=
  match htext : Scan.text bytes with
  | .error (reason, offset) =>
    -- Only after a whole text is it checked that the text is UTF-8.
    let fault := Fault.after bytes (reached bytes reason offset) reason
    if reason = .trailingCharacters then
      throw ((unicodeFault? (bytes.take offset)).getD fault)
    else throw fault
  | .ok () =>
    match hchars : Utf8.decode? (trim bytes) with
    | none => throw ((unicodeFault? bytes).getD (.after bytes bytes.length .invalidUnicode))
    | some chars =>
      return {
        bytes := trim bytes
        accepted := accepts_trim (by simp [Scan.accepts, htext, Except.isOk, Except.toBool])
        chars := chars
        decoded := hchars
        trimmed := trim_trim bytes }

end Raw

end Json

end SignedPayments
