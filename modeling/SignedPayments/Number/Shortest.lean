import SignedPayments.Number.Binary64

/-!
# SignedPayments.Number.Shortest

The shortest decimal that stands for a binary floating point number: of the
decimals that round to the number, those on the coarsest grid of powers of ten,
and of those the nearest.

In units of `10 ^ (-1074)` every finite number is a natural number, and so are
the ends of the interval of what rounds to it once they are doubled. A grid is a
power of ten in these units; the finest holds the number itself, so the search
needs no bound of its own.
-/

namespace SignedPayments

/-- The decimal `digits * 10 ^ exponent`. -/
structure Decimal where
  digits : Nat
  exponent : Int
deriving DecidableEq, Repr

namespace Decimal

/-- The exponent of the finest grid is minus this. -/
def finest : Nat := 1074

/-- What a magnitude stands for, in units of the finest grid. -/
def fine (magnitude : Nat) : Nat := Binary64.units magnitude * 5 ^ finest

/-- Whether `x`, in units of the finest grid, rounds to a magnitude. An end of the
interval is halfway to a neighbour and belongs to the even one of the two. -/
def roundsTo (magnitude x : Nat) : Bool :=
  let low := fine (magnitude - 1) + fine magnitude
  let high := fine magnitude + fine (magnitude + 1)
  if magnitude % 2 = 0 then low ≤ 2 * x && 2 * x ≤ high else low < 2 * x && 2 * x < high

/-- Of the multiples of `step` next to `x`, the one that stands for the magnitude;
of two, the nearer, and of two equally near, the even one. -/
def onGrid? (magnitude x step : Nat) : Option Nat :=
  let below := x / step
  let above := below + 1
  match roundsTo magnitude (below * step), roundsTo magnitude (above * step) with
  | true, true =>
    if 2 * (x % step) < step then some below
    else if step < 2 * (x % step) then some above
    else if below % 2 = 0 then some below else some above
  | true, false => some below
  | false, true => some above
  | false, false => none

/-- Searches the grids from `10 ^ grid` down to the finest. -/
def search (magnitude x : Nat) : Nat → Nat × Nat
  | 0 => (x, 0)
  | grid + 1 =>
    match onGrid? magnitude x (10 ^ (grid + 1)) with
    | some digits => (digits, grid + 1)
    | none => search magnitude x grid

/-- The shortest decimal that stands for a magnitude, which is `x` in units of the finest
grid. A coarser grid than the first one searched has no point up to twice `x`. -/
def shortestFrom (magnitude x : Nat) : Decimal :=
  let (digits, grid) := search magnitude x ((x.log2 + 1) / 3)
  ⟨digits, (grid : Int) - finest⟩

/-- The shortest decimal that stands for a finite magnitude above zero. -/
def shortest (magnitude : Nat) : Decimal := shortestFrom magnitude (fine magnitude)

end Decimal

end SignedPayments
