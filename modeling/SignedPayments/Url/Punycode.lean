import SignedPayments.Number.Power
import SignedPayments.Text.Pieces

/-!
# SignedPayments.Url.Punycode

Host labels beyond ASCII in their ASCII form. After `xn--` stand the ASCII characters
of the label, then a hyphen, then where to insert which other characters: numbers in
base 36 whose digits have a threshold each, below which a digit is the last one.
-/

namespace SignedPayments

namespace Url

namespace Punycode

/-- The value of a digit. -/
def digitValue? (c : Char) : Option Nat :=
  if 'a' ≤ c ∧ c ≤ 'z' then some (c.toNat - 97)
  else if 'A' ≤ c ∧ c ≤ 'Z' then some (c.toNat - 65)
  else if '0' ≤ c ∧ c ≤ '9' then some (c.toNat - 22)
  else none

/-- Divides a step by 35 until it is small, and counts. -/
def settle (delta : Nat) : Nat × Nat :=
  if 455 < delta then
    let (rest, count) := settle (delta / 35)
    (rest, count + 1)
  else (delta, 0)
termination_by delta
decreasing_by omega

/-- The bias after a step among `count` characters. -/
def adapt (delta count : Nat) (first : Bool) : Nat :=
  let delta := if first then delta / 700 else delta / 2
  let (rest, steps) := settle (delta + delta / count)
  36 * steps + 36 * rest / (rest + 38)

/-- The state between two digits. -/
structure State where
  /-- The characters so far. -/
  label : List Char
  /-- The number of the character that was inserted last. -/
  char : Nat := 128
  /-- Where it was inserted. -/
  place : Nat := 0
  bias : Nat := 72
  /-- The digits of the number so far. -/
  sum : Nat := 0
  /-- The weight of the next digit. -/
  weight : Nat := 1
  /-- How many digits the number has. -/
  digits : Nat := 0

/-- The threshold of the next digit: from 1 to 26. -/
def State.threshold (s : State) : Nat := max 1 (min 26 (36 * (s.digits + 1) - s.bias))

/-- Inserts the character that a number says. -/
def State.insert (s : State) (step : Nat) : Option State :=
  let count := s.label.length + 1
  let total := s.place + step
  let char := s.char + total / count
  let place := total % count
  if char.isValidChar then
    some {
      label := s.label.take place ++ Char.ofNat char :: s.label.drop place
      char := char
      place := place + 1
      bias := adapt step count (s.place = 0) }
  else none

/-- Numbers and the weights of their digits stay below this. -/
def limit : Nat := 2 ^ 32

/-- Reads a digit. -/
def State.step (s : State) (c : Char) : Option State := do
  let digit ← digitValue? c
  -- Digits come with the smallest weight first.
  let sum := s.sum + digit * s.weight
  let weight := s.weight * (36 - s.threshold)
  if limit ≤ s.place + sum then none
  else if digit < s.threshold then s.insert sum
  else if limit ≤ weight then none
  else some { s with sum := sum, weight := weight, digits := s.digits + 1 }

/-- Reads what stands after the last hyphen. -/
def decodeTail? (ascii tail : List Char) : Option (List Char) := do
  let s ← tail.foldlM State.step { label := ascii }
  if s.digits = 0 then some s.label else none

/-- The characters of a label in its ASCII form. A hyphen with nothing before it parts
nothing, and is no digit. -/
def decode? (cs : List Char) : Option (List Char) :=
  match (pieces '-' cs).reverse with
  | [] => none
  | [tail] => decodeTail? [] tail
  | [_, []] => none
  | tail :: before => decodeTail? (joined ['-'] before.reverse) tail

end Punycode

end Url

end SignedPayments
