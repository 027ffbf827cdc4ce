import SignedPayments.Bytes

/-!
# SignedPayments.Text.Hex

Bytes as hexadecimal text: two lowercase digits for each byte, the high half
first. Reading takes digits of either case and only whole bytes.
-/

namespace SignedPayments

namespace Hex

/-- The digit of a number below 16. -/
def digit (n : Nat) : Char :=
  if n < 10 then Char.ofNat (48 + n) else Char.ofNat (87 + n)

/-- The value of a digit of either case. -/
def digitValue? (c : Char) : Option Nat :=
  if '0' ≤ c ∧ c ≤ '9' then some (c.toNat - 48)
  else if 'a' ≤ c ∧ c ≤ 'f' then some (c.toNat - 87)
  else if 'A' ≤ c ∧ c ≤ 'F' then some (c.toNat - 55)
  else none

/-- The digits of bytes. -/
def digits (bytes : Bytes) : List Char :=
  bytes.flatMap fun b => [digit (b.toNat / 16), digit (b.toNat % 16)]

/-- Bytes as text. -/
def encode (bytes : Bytes) : String := String.ofList (digits bytes)

/-- The bytes that digits stand for. -/
def ofDigits? : List Char → Option Bytes
  | [] => some []
  | [_] => none
  | hi :: lo :: rest => do
    let h ← digitValue? hi
    let l ← digitValue? lo
    let bytes ← ofDigits? rest
    return UInt8.ofNat (16 * h + l) :: bytes

/-- The bytes that a text stands for. -/
def decode? (text : String) : Option Bytes := ofDigits? text.toList

end Hex

end SignedPayments
