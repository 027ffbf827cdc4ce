import SignedPayments.Text.Digits
import SignedPayments.Text.Hex
import SignedPayments.Text.Pieces

/-!
# SignedPayments.Url.Address

Numeric addresses. One of 32 bits is up to four numbers between points, of which the
last fills all bytes that the others leave; a number may be written in base 8 or 16.
One of 128 bits is eight numbers of base 16 between colons. A run of zeros may be
left out once, and an address of 32 bits may stand for the last two.
-/

namespace SignedPayments

namespace Url

/-! ### 32 bits -/

/-- The value of digits in a base, if all of them belong to it. -/
def valueIn? (base : Nat) (digits : List Char) : Option Nat :=
  digits.foldlM (fun n c => do
    let d ← Hex.digitValue? c
    if d < base then some (base * n + d) else none) 0

/-- Reads a number: in base 16 after `0x`, in base 8 after `0`, and else in base 10. -/
def ipv4Number? : List Char → Option Nat
  | [] => none
  | '0' :: 'x' :: digits | '0' :: 'X' :: digits => valueIn? 16 digits
  | ['0'] => some 0
  | '0' :: digits => valueIn? 8 digits
  | digits => valueIn? 10 digits

/-- Pieces without an empty one at their end. -/
def withoutEmptyLast (parts : List (List Char)) : List (List Char) :=
  if parts.getLast? = some [] then parts.dropLast else parts

/-- Whether a host ends in a number, so that it can only be an address. -/
def endsInNumber (host : List Char) : Bool :=
  match (withoutEmptyLast (pieces '.' host)).getLast? with
  | none => false
  | some last => (!last.isEmpty && last.all Digits.isDigit) || (ipv4Number? last).isSome

/-- The address that numbers stand for: all but the last are bytes. -/
def ipv4Value? (numbers : List Nat) : Option Nat := do
  let last ← numbers.getLast?
  let front := numbers.dropLast
  if 4 < numbers.length ∨ front.any (255 < ·) ∨ 256 ^ (4 - front.length) ≤ last then none
  return front.foldl (fun n b => 256 * n + b) 0 * 256 ^ (4 - front.length) + last

/-- Reads an address of 32 bits. -/
def ipv4? (host : List Char) : Option Nat := do
  ipv4Value? (← (withoutEmptyLast (pieces '.' host)).mapM ipv4Number?)

/-- An address of 32 bits as text. -/
def ipv4Chars (n : Nat) : List Char :=
  joined ['.'] ([n / 16777216, n / 65536 % 256, n / 256 % 256, n % 256].map Digits.ofNat)

/-! ### 128 bits -/

/-- Reads one of eight numbers: one to four digits. -/
def ipv6Piece? (digits : List Char) : Option Nat :=
  if digits.isEmpty || 4 < digits.length then none else valueIn? 16 digits

/-- Reads a byte in base 10, without zeros before it. -/
def byteNumber? (digits : List Char) : Option Nat := do
  if digits.isEmpty || (1 < digits.length && digits.head? = some '0') then none
  let n ← valueIn? 10 digits
  if n ≤ 255 then some n else none

/-- Reads the four bytes that may stand for the last two numbers. -/
def ipv6Tail? (cs : List Char) : Option (List Nat) := do
  match ← (pieces '.' cs).mapM byteNumber? with
  | [a, b, c, d] => some [256 * a + b, 256 * c + d]
  | _ => none

/-- Reads the numbers of one side. Bytes may stand at the end of the last side. -/
def ipv6Side? (isLast : Bool) (cs : List Char) : Option (List Nat) :=
  if cs = [] then some []
  else
    let parts := pieces ':' cs
    match isLast, parts.getLast? with
    | true, some last =>
      if last.contains '.' then do
        return (← parts.dropLast.mapM ipv6Piece?) ++ (← ipv6Tail? last)
      else parts.mapM ipv6Piece?
    | _, _ => parts.mapM ipv6Piece?

/-- Splits characters at the first two colons in a row. -/
def splitAtGap : List Char → List Char × Option (List Char)
  | [] => ([], none)
  | ':' :: ':' :: rest => ([], some rest)
  | c :: rest =>
    let (front, back) := splitAtGap rest
    (c :: front, back)

/-- Reads an address of 128 bits: eight numbers. -/
def ipv6? (cs : List Char) : Option (List Nat) := do
  match splitAtGap cs with
  | (all, none) =>
    let numbers ← ipv6Side? true all
    if numbers.length = 8 then some numbers else none
  | (front, some back) =>
    let left ← ipv6Side? false front
    let right ← ipv6Side? true back
    let known := left.length + right.length
    if known < 8 then some (left ++ List.replicate (8 - known) 0 ++ right) else none

/-- How many zeros stand at the start. -/
def zeroRun (numbers : List Nat) : Nat := (numbers.takeWhile (· = 0)).length

/-- The longest run of zeros, the first of several: its place and its length. -/
def longestZeroRun (numbers : List Nat) : Nat × Nat :=
  (List.range numbers.length).foldl (fun best i =>
    let run := zeroRun (numbers.drop i)
    if best.2 < run then (i, run) else best) (0, 0)

/-- Numbers of base 16 between colons. -/
def ipv6Side (numbers : List Nat) : List Char := joined [':'] (numbers.map (Nat.toDigits 16))

/-- An address of 128 bits as text: its longest run of two or more zeros is left
out. -/
def ipv6Chars (numbers : List Nat) : List Char :=
  let (start, length) := longestZeroRun numbers
  if 2 ≤ length then
    ipv6Side (numbers.take start) ++ ':' :: ':' :: ipv6Side (numbers.drop (start + length))
  else ipv6Side numbers

end Url

end SignedPayments
