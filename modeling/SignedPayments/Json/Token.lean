import SignedPayments.Json.Numeral
import SignedPayments.Text.Utf8

/-!
# SignedPayments.Json.Token

Texts as tokens: the marks, the words, the numbers and the strings, each with the
place where it begins and the place where it ends. The last token may be a faulty
one. It carries its own fault, which is told only where a token of its kind is
needed: at any other place the fault is that something else was needed.
-/

namespace SignedPayments

namespace Json

/-- A token. -/
inductive Token
  | listStart
  | listEnd
  | objectStart
  | objectEnd
  | comma
  | colon
  | word (word : Word)
  | number (n : Number)
  | string (s : String)
  /-- A byte that begins no token. -/
  | stray
  /-- A string that breaks off. -/
  | faultyString (reason : Reason)
  /-- A word or a number that breaks off. -/
  | faulty (reason : Reason)

/-- A token and its place: how many bytes are before it, and before its end. A
faulty token ends where its fault is noticed. -/
structure Lexeme where
  token : Token
  start : Nat
  stop : Nat

namespace Token

/-- What is wrong, and how many bytes have been read when it is noticed. -/
abbrev Stop := Reason × Nat

/-! ### Strings -/

/-- The value of a digit of base 16. -/
def hexValue (b : UInt8) : Nat :=
  if isDigitByte b then b.toNat - 0x30
  else if b ≤ 0x46 then b.toNat - 0x37
  else b.toNat - 0x57

/-- Reads four digits of base 16, after `read` bytes. -/
def hex (read : Nat) : Bytes → Except Stop Nat
  | a :: b :: c :: d :: _ =>
    let digits := [a, b, c, d]
    if digits.all isHexByte then .ok (digits.foldl (fun n b => 16 * n + hexValue b) 0)
    else .error (.invalidEscape, read + 4)
  | short => .error (.endInString, read + short.length)

/-- Reads the second half of a surrogate pair, after `read` bytes, and gives the
character. -/
def lowSurrogate (high read : Nat) : Bytes → Except Stop Nat
  | [] => .error (.endInString, read)
  | b :: rest =>
    if b ≠ 0x5c then .error (.halfSurrogatePair, read + 1)
    else
      match rest with
      | [] => .error (.endInString, read + 1)
      | c :: digits =>
        if c ≠ 0x75 then .error (.halfSurrogatePair, read + 2)
        else
          match hex (read + 2) digits with
          | .error stop => .error stop
          | .ok low =>
            if 0xdc00 ≤ low ∧ low ≤ 0xdfff then
              .ok ((high - 0xd800) * 0x400 + (low - 0xdc00) + 0x10000)
            else .error (.loneSurrogate, read + 6)

/-- Reads an escape after its backslash: the bytes it stands for, and how many bytes
it has. -/
def escape : Bytes → Except Stop (Bytes × Nat)
  | [] => .error (.endInString, 0)
  | b :: rest =>
    if b = 0x75 then
      match hex 1 rest with
      | .error stop => .error stop
      | .ok unit =>
        if 0xdc00 ≤ unit ∧ unit ≤ 0xdfff then .error (.loneSurrogate, 5)
        else if 0xd800 ≤ unit ∧ unit ≤ 0xdbff then
          match lowSurrogate unit 5 (rest.drop 4) with
          | .error stop => .error stop
          | .ok c => .ok (Utf8.encode [Char.ofNat c], 11)
        else .ok (Utf8.encode [Char.ofNat unit], 5)
    else
      match simpleEscape? b with
      | some c => .ok ([c], 1)
      | none => .error (.invalidEscape, 1)

/-- Reads a string after its opening quote, `read` bytes into it: the bytes it stands
for, and how many bytes there are up to the closing quote and with it. -/
def stringBytes (read : Nat) (bytes : Bytes) : Except Stop (Bytes × Nat) :=
  match bytes with
  | [] => .error (.endInString, read)
  | b :: rest =>
    if b = 0x22 then .ok ([], read + 1)
    else if b = 0x5c then
      match escape rest with
      | .error (reason, n) => .error (reason, read + 1 + n)
      | .ok (content, n) =>
        match stringBytes (read + 1 + n) (rest.drop n) with
        | .error stop => .error stop
        | .ok (more, size) => .ok (content ++ more, size)
    else if b < 0x20 then .error (.controlCharacter, read + 1)
    else
      match stringBytes (read + 1) rest with
      | .error stop => .error stop
      | .ok (more, size) => .ok (b :: more, size)
termination_by bytes.length
decreasing_by
  · simp only [List.length_drop, List.length_cons]; omega
  · simp

/-- Reads a string after its opening quote, and how many bytes there are with both
quotes. Bytes that are no UTF-8 are told at the end, less those that the string stands
for from the first faulty one on. -/
def readString (bytes : Bytes) : Except Stop (String × Nat) :=
  match stringBytes 1 bytes with
  | .error stop => .error stop
  | .ok (content, size) =>
    match Utf8.toString? content with
    | some s => .ok (s, size)
    | none => .error (.invalidUnicode, size - (content.length - Utf8.wellFormedLength content))

/-! ### Words -/

/-- Reads the letters of a word, `read` bytes into it. -/
def readLetters (read : Nat) : Bytes → Bytes → Except Stop Nat
  | [], _ => .ok read
  | _ :: _, [] => .error (.endInValue, read)
  | c :: left, b :: rest =>
    if b = c then readLetters (read + 1) left rest else .error (.wordExpected, read + 1)

/-! ### Tokens -/

/-- Reads the token that a byte begins, and how many bytes it has. -/
def ofByte (b : UInt8) (rest : Bytes) : Token × Nat :=
  if b = 0x5b then (listStart, 1)
  else if b = 0x5d then (listEnd, 1)
  else if b = 0x7b then (objectStart, 1)
  else if b = 0x7d then (objectEnd, 1)
  else if b = 0x2c then (comma, 1)
  else if b = 0x3a then (colon, 1)
  else if b = 0x22 then
    match readString rest with
    | .ok (s, size) => (.string s, size)
    | .error (reason, n) => (.faultyString reason, n)
  else if b = 0x2d ∨ isDigitByte b then
    match Numeral.number (b :: rest) with
    | .ok (n, size) => (.number n, size)
    | .error (reason, n) => (.faulty reason, n)
  else
    match Word.ofFirst? b with
    | none => (stray, 1)
    | some w =>
      match readLetters 1 (w.letters.drop 1) rest with
      | .ok size => (.word w, size)
      | .error (reason, n) => (.faulty reason, n)

/-- Whether nothing after a token can matter. -/
def isLast : Token → Bool
  | .stray | .faulty _ | .faultyString _ => true
  | _ => false

/-- The tokens of bytes, after `read` others. -/
def lexemes (read : Nat) (bytes : Bytes) : List Lexeme :=
  match bytes with
  | [] => []
  | b :: rest =>
    if isBlankByte b then lexemes (read + 1) rest
    else
      let (token, size) := ofByte b rest
      ⟨token, read, read + size⟩ ::
        if token.isLast then [] else lexemes (read + size) (rest.drop (size - 1))
termination_by bytes.length
decreasing_by
  · simp
  · simp only [List.length_drop, List.length_cons]; omega

end Token

end Json

end SignedPayments
