/-!
# SignedPayments.Text.Ranges

Classes of characters as ranges of their numbers, both ends included. The tables of
such ranges follow version 17 of the character standard.
-/

namespace SignedPayments

/-- Whether a number lies in one of the ranges. -/
def inRanges (ranges : List (Nat × Nat)) (n : Nat) : Bool :=
  ranges.any fun (first, last) => first ≤ n && n ≤ last

end SignedPayments
