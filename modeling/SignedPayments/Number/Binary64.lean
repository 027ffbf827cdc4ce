import SignedPayments.Number.Power

/-!
# SignedPayments.Number.Binary64

Binary floating point numbers of 64 bits. A number is a sign and a magnitude of
63 bits: eleven bits of exponent above 52 bits of fraction. Read as a natural
number, the magnitude orders the numbers, the infinity and the NaNs included, so
that the next larger number has the next magnitude.

A finite magnitude stands for `units` times `2 ^ (-1074)`, and `units` is a
natural number: all arithmetic here is exact, and rounded once at its end by
`nearest`.
-/

namespace SignedPayments

/-- A binary floating point number of 64 bits. -/
structure Binary64 where
  negative : Bool
  /-- Exponent and fraction. -/
  magnitude : Nat
  magnitude_lt : magnitude < 2 ^ 63 := by decide
deriving DecidableEq

namespace Binary64

/-- The magnitude of infinity. Those above it are the NaNs. -/
def infinity : Nat := 2047 * 2 ^ 52

/-- Neither infinite nor a NaN. -/
def isFinite (x : Binary64) : Bool := x.magnitude < infinity

/-- Not a number. -/
def isNaN (x : Binary64) : Bool := infinity < x.magnitude

/-- Zero of either sign. -/
def isZero (x : Binary64) : Bool := x.magnitude = 0

/-- The digits of a magnitude in base two: 53 of them, or fewer below the
normal numbers. -/
def significand (magnitude : Nat) : Nat :=
  if magnitude < 2 ^ 52 then magnitude else 2 ^ 52 + magnitude % 2 ^ 52

/-- How often the significand is doubled. -/
def scale (magnitude : Nat) : Nat := magnitude / 2 ^ 52 - 1

/-- What a magnitude stands for, in units of `2 ^ (-1074)`. -/
def units (magnitude : Nat) : Nat := significand magnitude * 2 ^ scale magnitude

/-! ### Rounding -/

/-- The natural number nearest `a / b`; of two nearest ones, the even one. -/
def nearestNat (a b : Nat) : Nat :=
  let q := a / b
  let r := a % b
  if 2 * r < b then q
  else if b < 2 * r then q + 1
  else if q % 2 = 0 then q else q + 1

/-- The magnitude nearest `a / b`; of two nearest ones, the even one. What is too
large becomes infinite. -/
def nearest (a b : Nat) : Nat :=
  let a := a * 2 ^ 1074
  -- Below the normal numbers the scale stays zero.
  let scale := Nat.log2 (a / b) - 52
  min infinity (scale * 2 ^ 52 + nearestNat a (b * 2 ^ scale))

theorem nearest_lt (a b : Nat) : nearest a b < 2 ^ 63 :=
  Nat.lt_of_le_of_lt (Nat.min_le_left _ _) (by decide)

/-- The number nearest `a / b`, with a sign. -/
def ofRatio (negative : Bool) (a b : Nat) : Binary64 :=
  ⟨negative, nearest a b, nearest_lt a b⟩

/-- The number nearest a natural number. -/
def ofNat (n : Nat) : Binary64 := ofRatio false n 1

/-- Changes the sign. -/
def neg (x : Binary64) : Binary64 := { x with negative := !x.negative }

/-- The number nearest the product of two finite ones. -/
def mul (x y : Binary64) : Binary64 :=
  ofRatio (x.negative != y.negative) (units x.magnitude * units y.magnitude) (2 ^ 2148)

/-- The number nearest the quotient of two finite ones, of which the second is
not zero. -/
def div (x y : Binary64) : Binary64 :=
  ofRatio (x.negative != y.negative) (units x.magnitude) (units y.magnitude)

/-- Equality of what numbers stand for: a NaN stands for nothing, and zero has
two forms. -/
def agrees (x y : Binary64) : Bool :=
  !x.isNaN && !y.isNaN && (x = y || (x.isZero && y.isZero))

end Binary64

end SignedPayments
