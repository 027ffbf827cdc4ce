import SignedPayments.Text.Digits

/-!
# SignedPayments.Time.Span

Lengths of time, to the nanosecond. As text a span is given in the largest unit
that makes it at least one, and its fraction ends with its last digit that is
not zero: `10s`, `2.5ms`, `0ns`.
-/

namespace SignedPayments

/-- A length of time. -/
structure Span where
  /-- Whole seconds. -/
  seconds : Nat
  /-- Nanoseconds beyond them. -/
  nanos : Nat
  nanos_lt : nanos < 1000000000 := by omega
deriving DecidableEq, Repr

namespace Span

/-- A whole number of seconds. -/
def ofSeconds (n : Nat) : Span := { seconds := n, nanos := 0 }

/-- A span in nanoseconds. -/
def totalNanos (s : Span) : Nat := s.seconds * 1000000000 + s.nanos

/-- A fraction of `width` digits after a point; nothing if it is zero. -/
def fractionText (width n : Nat) : List Char :=
  if n = 0 then []
  else '.' :: ((Digits.padded width n).reverse.dropWhile (· = '0')).reverse

/-- A span in its largest fitting unit. -/
def text (s : Span) : String :=
  let (whole, width, rest, unit) :=
    if 0 < s.seconds then (s.seconds, 9, s.nanos, "s")
    else if 1000000 ≤ s.nanos then (s.nanos / 1000000, 6, s.nanos % 1000000, "ms")
    else if 1000 ≤ s.nanos then (s.nanos / 1000, 3, s.nanos % 1000, "\u00b5s")
    else (s.nanos, 0, 0, "ns")
  Digits.text whole ++ String.ofList (fractionText width rest) ++ unit

/-- The longest time of a timer, in nanoseconds: thirty years of 365 days. -/
def mostNanos : Nat := 30 * 365 * 86400 * 1000000000

/-- The milliseconds that a timer has counted when a span is over, which began this many
nanoseconds after one of them. A timer rounds up, and a longer span than it has counts as its
longest. -/
def timerTicks (begun : Fin 1000000) (s : Span) : Nat :=
  (begun + min s.totalNanos mostNanos + 999999) / 1000000

end Span

end SignedPayments
