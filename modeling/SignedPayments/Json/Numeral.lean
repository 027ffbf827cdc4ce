import SignedPayments.Json.Scan
import SignedPayments.Json.Value

/-!
# SignedPayments.Json.Numeral

Reads numbers. Integers that fit 64 bits, without a sign or with one, are kept as
they are. Everything else becomes a floating point number, in two roundings: the
digits that fit a natural number of 64 bits are rounded to a floating point
number, which is multiplied or divided by a power of ten. Later digits count
only by their places before the point.
-/

namespace SignedPayments

namespace Json

namespace Numeral

/-- What is wrong, and how many bytes have been read when it is noticed. -/
abbrev Stop := Reason × Nat

/-- The value of a digit. -/
def digitValue (b : UInt8) : Nat := b.toNat - 0x30

/-- Digits that have been read: the number that those which fit 64 bits stand for,
and how many they are. -/
structure Digits where
  value : Nat
  count : Nat

/-- Takes digits as long as the number fits 64 bits. -/
def take (value : Nat) : Bytes → Digits
  | [] => ⟨value, 0⟩
  | b :: rest =>
    if isDigitByte b && 10 * value + digitValue b < 2 ^ 64 then
      let more := take (10 * value + digitValue b) rest
      ⟨more.value, more.count + 1⟩
    else ⟨value, 0⟩

/-- How many digits stand at the start. -/
def digitCount (bytes : Bytes) : Nat := (bytes.takeWhile isDigitByte).length

/-! ### Floating point numbers -/

/-- A power of ten. -/
def tenPow (n : Nat) : Binary64 := .ofRatio false (10 ^ n) 1

/-- The largest power of ten that is finite. -/
def mostTens : Nat := 308

/-- A number times a power of ten. A power that is too small is divided off in
steps; nothing stands for what is too large. -/
def timesTenPow? (x : Binary64) (exponent : Int) : Option Binary64 :=
  if exponent.natAbs ≤ mostTens then
    if 0 ≤ exponent then
      let y := x.mul (tenPow exponent.natAbs)
      if y.isFinite then some y else none
    else some (x.div (tenPow exponent.natAbs))
  else if x.isZero then some x
  else if 0 ≤ exponent then none
  else timesTenPow? (x.div (tenPow mostTens)) (exponent + mostTens)
termination_by exponent.natAbs
decreasing_by simp only [mostTens] at *; omega

/-- The number `value * 10 ^ exponent` with a sign, after `read` bytes. -/
def ofParts (negative : Bool) (value : Nat) (exponent : Int) (read : Nat) :
    Except Stop (Number × Nat) :=
  match timesTenPow? (.ofNat value) exponent with
  | none => .error (.numberOutOfRange, read)
  | some x =>
    let x := if negative then x.neg else x
    if h : x.isFinite then .ok (.float x h, read) else .error (.numberOutOfRange, read)

/-- The largest exponent that is counted. -/
def mostExponent : Nat := 2 ^ 31 - 1

/-- Brings a sum of exponents into 32 bits. -/
def clampExponent (n : Int) : Int := max (-2 ^ 31) (min (2 ^ 31 - 1) n)

/-- Takes the digits of an exponent as long as it can be counted. -/
def takeExponent (value : Nat) : Bytes → Digits
  | [] => ⟨value, 0⟩
  | b :: rest =>
    if isDigitByte b && 10 * value + digitValue b ≤ mostExponent then
      let more := takeExponent (10 * value + digitValue b) rest
      ⟨more.value, more.count + 1⟩
    else ⟨value, 0⟩

/-- Zero with a sign. -/
def zero (negative : Bool) : Number :=
  if negative then .float ⟨true, 0, by decide⟩ (by decide) else .float ⟨false, 0, by decide⟩ (by decide)

/-- Reads the exponent after its letter. -/
def exponentPart (negative : Bool) (value : Nat) (exponent : Int) (read : Nat) (bytes : Bytes) :
    Except Stop (Number × Nat) :=
  let (down, bytes, read) := match bytes with
    | b :: rest =>
      if b = 0x2b then (false, rest, read + 1)
      else if b = 0x2d then (true, rest, read + 1)
      else (false, bytes, read)
    | [] => (false, [], read)
  match bytes with
  | [] => .error (.endInValue, read)
  | b :: _ =>
    if !isDigitByte b then .error (.invalidNumber, read + 1)
    else
      let digits := takeExponent 0 bytes
      let count := digitCount bytes
      if digits.count = count then
        let shift : Int := digits.value
        ofParts negative value (clampExponent (if down then exponent - shift else exponent + shift))
          (read + count)
      -- The exponent is beyond all bounds: the number is too large, or it is zero.
      else if value ≠ 0 ∧ down = false then .error (.numberOutOfRange, read + digits.count + 1)
      else .ok (zero negative, read + count)

/-- Whether a byte begins an exponent. -/
def isExponentMark (b : UInt8) : Bool := b = 0x65 || b = 0x45

/-- Reads an exponent, if one follows. -/
def exponentPart? (negative : Bool) (value : Nat) (exponent : Int) (read : Nat) (bytes : Bytes) :
    Except Stop (Number × Nat) :=
  match bytes with
  | b :: rest =>
    if isExponentMark b then exponentPart negative value exponent (read + 1) rest
    else ofParts negative value exponent read
  | [] => ofParts negative value exponent read

/-- Reads the fraction after the point. -/
def fractionPart (negative : Bool) (value : Nat) (exponent : Int) (read : Nat) (bytes : Bytes) :
    Except Stop (Number × Nat) :=
  let digits := take value bytes
  -- Digits that no longer fit are read, but do not count.
  let count := digitCount bytes
  if count = 0 then
    match bytes with
    | [] => .error (.endInValue, read)
    | _ :: _ => .error (.invalidNumber, read + 1)
  else
    exponentPart? negative digits.value (exponent - digits.count) (read + count) (bytes.drop count)

/-- The number that the digits of an integer stand for, if 64 bits hold it; zero
with a minus sign is no integer. -/
def integer? (negative : Bool) (value : Nat) : Option Number :=
  if !negative then some (.integer value)
  else if 0 < value ∧ value ≤ 2 ^ 63 then some (.integer (-(value : Int)))
  else none

/-- Reads what follows the digits before the point. `dropped` of them did not fit. -/
def afterWhole (negative : Bool) (value dropped read : Nat) (bytes : Bytes) :
    Except Stop (Number × Nat) :=
  match bytes with
  | b :: rest =>
    if b = 0x2e then fractionPart negative value dropped (read + 1) rest
    else if isExponentMark b then exponentPart negative value dropped (read + 1) rest
    else whole
  | [] => whole
where
  whole : Except Stop (Number × Nat) :=
    match integer? negative value with
    | some n => if dropped = 0 then .ok (n, read) else ofParts negative value dropped read
    | none => ofParts negative value dropped read

/-- Reads a number after its sign, `read` bytes long. -/
def unsigned (negative : Bool) (read : Nat) (bytes : Bytes) : Except Stop (Number × Nat) :=
  match bytes with
  | [] => .error (.endInValue, read)
  | b :: rest =>
    if b = 0x30 then
      if rest.head?.any isDigitByte then .error (.invalidNumber, read + 2)
      else afterWhole negative 0 0 (read + 1) rest
    else if isDigitByte b then
      let digits := take 0 bytes
      let count := digitCount bytes
      afterWhole negative digits.value (count - digits.count) (read + count) (bytes.drop count)
    else .error (.invalidNumber, read + 1)

/-- Reads a number at the start of bytes, and how many bytes it has. -/
def number (bytes : Bytes) : Except Stop (Number × Nat) :=
  match bytes with
  | b :: rest => if b = 0x2d then unsigned true 1 rest else unsigned false 0 bytes
  | [] => unsigned false 0 []

end Numeral

end Json

end SignedPayments
