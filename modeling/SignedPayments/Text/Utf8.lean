import SignedPayments.Bytes

/-!
# SignedPayments.Text.Utf8

Text as bytes. `Utf8.encode` writes; `Utf8.head` reads one character or says how
many bytes can be no part of one. Strict reading (`Utf8.decode?`) takes only
well-formed bytes; lossy reading (`Utf8.decodeLossy`) puts one replacement
character for each longest beginning of a character that breaks off, and for
each other byte that can start none.
-/

namespace SignedPayments

namespace Utf8

/-- Characters as bytes. -/
def encode (cs : List Char) : Bytes := cs.flatMap String.utf8EncodeChar

/-- A text as bytes. -/
def ofString (text : String) : Bytes := encode text.toList

/-! ### One character -/

/-- What a first byte announces: how many more bytes, and the range of the first
of them. The ranges leave out overlong forms, surrogates and numbers beyond the
last character. -/
structure Lead where
  more : Nat
  least : UInt8
  most : UInt8

/-- What a byte announces, if it can start a character. -/
def lead? (b : UInt8) : Option Lead :=
  if b < 0x80 then some ⟨0, 0x80, 0xbf⟩
  else if b < 0xc2 then none
  else if b < 0xe0 then some ⟨1, 0x80, 0xbf⟩
  else if b = 0xe0 then some ⟨2, 0xa0, 0xbf⟩
  else if b = 0xed then some ⟨2, 0x80, 0x9f⟩
  else if b < 0xf0 then some ⟨2, 0x80, 0xbf⟩
  else if b = 0xf0 then some ⟨3, 0x90, 0xbf⟩
  else if b < 0xf4 then some ⟨3, 0x80, 0xbf⟩
  else if b = 0xf4 then some ⟨3, 0x80, 0x8f⟩
  else none

/-- How many of the announced bytes follow. -/
def Lead.follow : Lead → Bytes → Nat
  | ⟨0, _, _⟩, _ => 0
  | _, [] => 0
  | ⟨n + 1, least, most⟩, b :: rest =>
    if least ≤ b ∧ b ≤ most then Lead.follow ⟨n, 0x80, 0xbf⟩ rest + 1 else 0

/-- The number of the character with this first byte and these later ones. -/
def codePoint (b : UInt8) (more : Bytes) : Nat :=
  let bits := match more.length with
    | 0 => b.toNat
    | 1 => b.toNat - 0xc0
    | 2 => b.toNat - 0xe0
    | _ => b.toNat - 0xf0
  more.foldl (fun n c => 64 * n + (c.toNat - 0x80)) bits

/-- What stands at the start of bytes. -/
inductive Head
  /-- A character of `size` bytes. -/
  | char (c : Char) (size : Nat)
  /-- A faulty sequence: `size` bytes that a replacement stands for. -/
  | faulty (size : Nat)
deriving DecidableEq, Repr

/-- What stands at the start of `b :: rest`. -/
def head (b : UInt8) (rest : Bytes) : Head :=
  match lead? b with
  | none => .faulty 1
  | some lead =>
    let n := lead.follow rest
    if n = lead.more then .char (Char.ofNat (codePoint b (rest.take n))) (n + 1)
    else .faulty (n + 1)

/-- How many bytes the start takes beyond the first. -/
def Head.extra : Head → Nat
  | .char _ size => size - 1
  | .faulty size => size - 1

/-! ### Whole texts -/

/-- The characters of well-formed bytes. -/
def decode? : Bytes → Option (List Char)
  | [] => some []
  | b :: rest =>
    match head b rest with
    | .char c size => (decode? (rest.drop (size - 1))).map (c :: ·)
    | .faulty _ => none
termination_by bytes => bytes.length
decreasing_by simp only [List.length_drop, List.length_cons]; omega

/-- How many bytes at the start are well-formed. -/
def wellFormedLength : Bytes → Nat
  | [] => 0
  | b :: rest =>
    match head b rest with
    | .char _ size => wellFormedLength (rest.drop (size - 1)) + size
    | .faulty _ => 0
termination_by bytes => bytes.length
decreasing_by simp only [List.length_drop, List.length_cons]; omega

/-- The character that stands for faulty bytes. -/
def replacement : Char := '\ufffd'

/-- The characters of any bytes. -/
def decodeLossy : Bytes → List Char
  | [] => []
  | b :: rest =>
    match head b rest with
    | .char c size => c :: decodeLossy (rest.drop (size - 1))
    | .faulty size => replacement :: decodeLossy (rest.drop (size - 1))
termination_by bytes => bytes.length
decreasing_by all_goals simp only [List.length_drop, List.length_cons]; omega

/-- The text of well-formed bytes. -/
def toString? (bytes : Bytes) : Option String := (decode? bytes).map String.ofList

/-- The text of any bytes. -/
def toStringLossy (bytes : Bytes) : String := String.ofList (decodeLossy bytes)

end Utf8

end SignedPayments
