import SignedPayments.Number.Power

/-!
# SignedPayments.Text.Digits

Natural numbers as decimal digits, and digits as numbers.
-/

namespace SignedPayments

namespace Digits

/-- Whether a character is an ASCII digit. -/
def isDigit (c : Char) : Bool := '0' ≤ c && c ≤ '9'

/-- The value of a digit. -/
def digitValue (c : Char) : Nat := c.toNat - 48

/-- The digits of a number, without leading zeros; zero is one digit. -/
def ofNat (n : Nat) : List Char := Nat.toDigits 10 n

/-- The digits of a number, with leading zeros up to `width`. -/
def padded (width n : Nat) : List Char :=
  List.replicate (width - (ofNat n).length) '0' ++ ofNat n

/-- The number that digits stand for; no digits stand for zero. -/
def value (digits : List Char) : Nat :=
  digits.foldl (fun n c => 10 * n + digitValue c) 0

@[simp] theorem value_nil : value [] = 0 := rfl

/-- A number as text. -/
def text (n : Nat) : String := String.ofList (ofNat n)

/-- An integer as text: a minus sign stands before a negative one. -/
def textInt (n : Int) : String := if n < 0 then "-" ++ text n.natAbs else text n.natAbs

end Digits

end SignedPayments
