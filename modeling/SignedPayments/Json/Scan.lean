import SignedPayments.Json.Fault

/-!
# SignedPayments.Json.Scan

Which bytes are a JSON text. The bytes are read one by one, by a machine whose
state is what may come next and which lists and objects are open, so nesting has
no bound. Reading checks the form only: a number may be of any size, an escaped
surrogate may stand alone, and bytes beyond ASCII may stand in strings.

A machine that has read a text and meets a byte other than a blank stops there.
Hence no text is the beginning of a longer one with a comma after it.
-/

namespace SignedPayments

namespace Json

/-- The bytes between the parts of a text. -/
def isBlankByte (b : UInt8) : Bool := b = 0x20 || b = 0x0a || b = 0x0d || b = 0x09

/-- The digits. -/
def isDigitByte (b : UInt8) : Bool := 0x30 ≤ b && b ≤ 0x39

/-- The digits of base 16, in either case. -/
def isHexByte (b : UInt8) : Bool :=
  isDigitByte b || (0x41 ≤ b && b ≤ 0x46) || (0x61 ≤ b && b ≤ 0x66)

/-- The bytes that a backslash and one more byte stand for. -/
def simpleEscape? (b : UInt8) : Option UInt8 :=
  if b = 0x22 then some 0x22
  else if b = 0x5c then some 0x5c
  else if b = 0x2f then some 0x2f
  else if b = 0x62 then some 0x08
  else if b = 0x66 then some 0x0c
  else if b = 0x6e then some 0x0a
  else if b = 0x72 then some 0x0d
  else if b = 0x74 then some 0x09
  else none

/-- The words that are values. -/
inductive Word
  | null
  | true
  | false
deriving DecidableEq, Repr

/-- The letters of a word. -/
def Word.letters : Word → Bytes
  | .null => [0x6e, 0x75, 0x6c, 0x6c]
  | .true => [0x74, 0x72, 0x75, 0x65]
  | .false => [0x66, 0x61, 0x6c, 0x73, 0x65]

/-- The word that a byte begins. -/
def Word.ofFirst? (b : UInt8) : Option Word :=
  if b = 0x6e then some .null
  else if b = 0x74 then some .true
  else if b = 0x66 then some .false
  else none

namespace Scan

/-- What is open. -/
inductive Frame
  | list
  | object
deriving DecidableEq, Repr

/-- How far a number has been read. -/
inductive NumberPart
  | minus
  | zero
  | whole
  | point
  | fraction
  | exponent
  | exponentSign
  | exponentDigits
deriving DecidableEq, Repr

/-- How far an escape in a string has been read. -/
inductive Escape
  | none
  | backslash
  /-- `left` more bytes belong to it, and `faulty` tells whether one before them
  was no digit. -/
  | hex (left : Nat) (faulty : Bool)
deriving DecidableEq, Repr

/-- What may come next. -/
inductive Expect
  | value
  /-- The first item of a list, or its end. -/
  | firstItem
  /-- The first key of an object, or its end. -/
  | firstKey
  | key
  | colon
  /-- A value is complete. -/
  | next
  | string (isKey : Bool) (escape : Escape)
  | word (word : Word) (seen : Nat)
  | number (part : NumberPart)
deriving DecidableEq, Repr

/-- A state of the machine. -/
structure State where
  expect : Expect
  frames : List Frame
deriving DecidableEq, Repr

/-- The state before a text. -/
def start : State := ⟨.value, []⟩

/-- Reads a byte after a complete value. -/
def stepNext (frames : List Frame) (b : UInt8) : Except Reason State :=
  if isBlankByte b then .ok ⟨.next, frames⟩
  else
    match frames with
    | [] => .error .trailingCharacters
    | .list :: rest =>
      if b = 0x2c then .ok ⟨.value, frames⟩
      else if b = 0x5d then .ok ⟨.next, rest⟩
      else .error .listEndExpected
    | .object :: rest =>
      if b = 0x2c then .ok ⟨.key, frames⟩
      else if b = 0x7d then .ok ⟨.next, rest⟩
      else .error .objectEndExpected

/-- Reads the first byte of a value. -/
def stepValue (frames : List Frame) (b : UInt8) : Except Reason State :=
  match Word.ofFirst? b with
  | some word => .ok ⟨.word word 1, frames⟩
  | none =>
    if b = 0x2d then .ok ⟨.number .minus, frames⟩
    else if b = 0x30 then .ok ⟨.number .zero, frames⟩
    else if isDigitByte b then .ok ⟨.number .whole, frames⟩
    else if b = 0x22 then .ok ⟨.string false .none, frames⟩
    else if b = 0x5b then .ok ⟨.firstItem, .list :: frames⟩
    else if b = 0x7b then .ok ⟨.firstKey, .object :: frames⟩
    else .error .valueExpected

/-- Reads a byte of a string. -/
def stepString (isKey : Bool) (frames : List Frame) (escape : Escape) (b : UInt8) :
    Except Reason State :=
  let within (escape : Escape) : Except Reason State := .ok ⟨.string isKey escape, frames⟩
  match escape with
  | .none =>
    if b = 0x22 then .ok ⟨if isKey then .colon else .next, frames⟩
    else if b = 0x5c then within .backslash
    else if b < 0x20 then .error .controlCharacter
    else within .none
  | .backslash =>
    if b = 0x75 then within (.hex 4 false)
    else if (simpleEscape? b).isSome then within .none
    else .error .invalidEscape
  | .hex left faulty =>
    let faulty := faulty || !isHexByte b
    if 1 < left then within (.hex (left - 1) faulty)
    else if faulty then .error .invalidEscape
    else within .none

/-- Whether a number may end after a part. -/
def NumberPart.mayEnd : NumberPart → Bool
  | .zero | .whole | .fraction | .exponentDigits => true
  | .minus | .point | .exponent | .exponentSign => false

/-- The part that a byte continues a number with. -/
def NumberPart.step? (part : NumberPart) (b : UInt8) : Option NumberPart :=
  let digit := isDigitByte b
  let e := b = 0x65 ∨ b = 0x45
  match part with
  | .minus => if b = 0x30 then some .zero else if digit then some .whole else none
  | .zero => if b = 0x2e then some .point else if e then some .exponent else none
  | .whole =>
    if digit then some .whole
    else if b = 0x2e then some .point else if e then some .exponent else none
  | .point => if digit then some .fraction else none
  | .fraction => if digit then some .fraction else if e then some .exponent else none
  | .exponent =>
    if digit then some .exponentDigits
    else if b = 0x2b ∨ b = 0x2d then some .exponentSign else none
  | .exponentSign | .exponentDigits => if digit then some .exponentDigits else none

/-- Reads a byte of a number, or the byte after it. -/
def stepNumber (part : NumberPart) (frames : List Frame) (b : UInt8) : Except Reason State :=
  match part.step? b with
  | some part => .ok ⟨.number part, frames⟩
  | none =>
    if part.mayEnd && !(part = .zero && isDigitByte b) then stepNext frames b
    else .error .invalidNumber

/-- Reads a byte. -/
def step (s : State) (b : UInt8) : Except Reason State :=
  match s.expect with
  | .value => if isBlankByte b then .ok s else stepValue s.frames b
  | .firstItem =>
    if isBlankByte b then .ok s
    else if b = 0x5d then .ok ⟨.next, s.frames.tail⟩
    else stepValue s.frames b
  | .firstKey =>
    if isBlankByte b then .ok s
    else if b = 0x7d then .ok ⟨.next, s.frames.tail⟩
    else if b = 0x22 then .ok ⟨.string true .none, s.frames⟩
    else .error .keyNotText
  | .key =>
    if isBlankByte b then .ok s
    else if b = 0x22 then .ok ⟨.string true .none, s.frames⟩
    else .error .keyNotText
  | .colon =>
    if isBlankByte b then .ok s
    else if b = 0x3a then .ok ⟨.value, s.frames⟩
    else .error .colonExpected
  | .next => stepNext s.frames b
  | .string isKey escape => stepString isKey s.frames escape b
  | .word word seen =>
    if word.letters[seen]? = some b then
      .ok ⟨if seen + 1 = word.letters.length then .next else .word word (seen + 1), s.frames⟩
    else .error .wordExpected
  | .number part => stepNumber part s.frames b

/-- What is missing at the end of the bytes, if anything is. -/
def State.missing? (s : State) : Option Reason :=
  let ended : Option Reason := match s.frames with
    | [] => none
    | .list :: _ => some .endInList
    | .object :: _ => some .endInObject
  match s.expect with
  | .value => some .endInValue
  | .firstItem => some .endInList
  | .firstKey | .key | .colon => some .endInObject
  | .next => ended
  | .string _ _ => some .endInString
  | .word _ _ => some .endInValue
  | .number part => if part.mayEnd then ended else some .invalidNumber

/-- Reads bytes, after `read` others. A fault comes with the number of bytes before
the one that shows it. -/
def run (s : State) (read : Nat) : Bytes → Except (Reason × Nat) State
  | [] => .ok s
  | b :: rest =>
    match step s b with
    | .error reason => .error (reason, read)
    | .ok s' => run s' (read + 1) rest

/-- Reads a whole text. -/
def text (bytes : Bytes) : Except (Reason × Nat) Unit :=
  match run start 0 bytes with
  | .error stop => .error stop
  | .ok s =>
    match s.missing? with
    | some reason => .error (reason, bytes.length)
    | none => .ok ()

/-- Whether bytes are a JSON text. -/
def accepts (bytes : Bytes) : Bool := (text bytes).isOk

/-! ### Blanks around a text -/

theorem run_append (s : State) (n : Nat) (xs ys : Bytes) :
    run s n (xs ++ ys) = (run s n xs).bind fun s' => run s' (n + xs.length) ys := by
  induction xs generalizing s n with
  | nil => rfl
  | cons x xs ih =>
    simp only [List.cons_append, run, List.length_cons]
    cases step s x with
    | error _ => rfl
    | ok s' => simp only [ih, Nat.add_assoc, Nat.add_comm 1]

/-- How far reading got before does not change which state it reaches. -/
theorem run_ok_shift {s s' : State} {n : Nat} (m : Nat) {bytes : Bytes}
    (h : run s n bytes = .ok s') : run s m bytes = .ok s' := by
  induction bytes generalizing s n m with
  | nil => exact h
  | cons b rest ih =>
    simp only [run] at h ⊢
    cases hs : step s b with
    | error _ => simp [hs] at h
    | ok t => simp only [hs] at h ⊢; exact ih _ h

theorem accepts_iff {bytes : Bytes} :
    accepts bytes = true ↔ ∃ s, run start 0 bytes = .ok s ∧ s.missing? = none := by
  unfold accepts text
  cases run start 0 bytes with
  | error _ => simp [Except.isOk, Except.toBool]
  | ok s => cases hm : s.missing? <;> simp [hm, Except.isOk, Except.toBool]

/-- Blanks before a text do not matter. -/
theorem accepts_of_cons_blank {b : UInt8} {bytes : Bytes} (hb : isBlankByte b = true)
    (h : accepts (b :: bytes) = true) : accepts bytes = true := by
  obtain ⟨s, hs, hm⟩ := accepts_iff.1 h
  have hstep : step start b = .ok start := by simp [step, start, hb]
  simp only [run, hstep] at hs
  exact accepts_iff.2 ⟨s, run_ok_shift 0 hs, hm⟩

theorem isBlankByte_iff {b : UInt8} :
    isBlankByte b = true ↔ b = 0x20 ∨ b = 0x0a ∨ b = 0x0d ∨ b = 0x09 := by
  simp [isBlankByte, or_assoc]

/-- A blank ends no string. -/
theorem expect_of_stepString_blank {isKey : Bool} {frames : List Frame} {escape : Escape}
    {b : UInt8} {s : State} (hb : isBlankByte b = true)
    (h : stepString isKey frames escape b = .ok s) :
    ∃ escape', s.expect = .string isKey escape' := by
  have hquote : b ≠ 0x22 := by
    rcases isBlankByte_iff.1 hb with rfl | rfl | rfl | rfl <;> decide
  cases escape with
  | none =>
    simp only [stepString, hquote, if_false] at h
    split at h
    · cases h; exact ⟨_, rfl⟩
    · split at h
      · cases h
      · cases h; exact ⟨_, rfl⟩
  | backslash =>
    simp only [stepString] at h
    split at h
    · cases h; exact ⟨_, rfl⟩
    · split at h
      · cases h; exact ⟨_, rfl⟩
      · cases h
  | hex left faulty =>
    simp only [stepString] at h
    split at h
    · cases h; exact ⟨_, rfl⟩
    · split at h
      · cases h
      · cases h; exact ⟨_, rfl⟩

/-- A blank completes nothing: where a text may end after it, a text may end before
it. -/
theorem missing?_of_step_blank {s s' : State} {b : UInt8} (hb : isBlankByte b = true)
    (h : step s b = .ok s') (hm : s'.missing? = none) : s.missing? = none := by
  obtain ⟨expect, frames⟩ := s
  have hdigit : isDigitByte b = false := by
    rcases isBlankByte_iff.1 hb with rfl | rfl | rfl | rfl <;> decide
  cases expect with
  | value | firstItem | firstKey | key | colon =>
    simp only [step, hb, if_true] at h
    cases h; exact hm
  | next =>
    simp only [step, stepNext, hb, if_true] at h
    cases h; exact hm
  | string isKey escape =>
    obtain ⟨escape', he⟩ := expect_of_stepString_blank hb h
    simp [State.missing?, he] at hm
  | word word seen =>
    exfalso
    have hin : b ∈ word.letters := by
      simp only [step] at h
      split at h
      · next heq => exact List.mem_of_getElem? heq
      · simp at h
    rcases isBlankByte_iff.1 hb with rfl | rfl | rfl | rfl <;> cases word <;>
      exact absurd hin (by decide)
  | number part =>
    have hnone : part.step? b = none := by
      rcases isBlankByte_iff.1 hb with rfl | rfl | rfl | rfl <;> cases part <;> decide
    simp only [step, stepNumber, hnone, hdigit, Bool.and_false, Bool.not_false, Bool.and_true] at h
    split at h
    · next hend =>
      simp only [stepNext, hb, if_true] at h
      cases h
      simpa [State.missing?, hend] using hm
    · simp at h

/-- Blanks after a text do not matter. -/
theorem accepts_of_append_blank {b : UInt8} {bytes : Bytes} (hb : isBlankByte b = true)
    (h : accepts (bytes ++ [b]) = true) : accepts bytes = true := by
  obtain ⟨s, hs, hm⟩ := accepts_iff.1 h
  rw [run_append] at hs
  cases hr : run start 0 bytes with
  | error _ => simp [hr, Except.bind] at hs
  | ok t =>
    simp only [hr, Except.bind, run] at hs
    cases ht : step t b with
    | error _ => simp [ht] at hs
    | ok u =>
      simp only [ht] at hs
      cases hs
      exact accepts_iff.2 ⟨t, hr, missing?_of_step_blank hb ht hm⟩

end Scan

end Json

end SignedPayments
