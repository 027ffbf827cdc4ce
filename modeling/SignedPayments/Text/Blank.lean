/-!
# SignedPayments.Text.Blank

White space in any script, and texts without it at their ends.
-/

namespace SignedPayments

/-- White space: the blanks, tabs and line ends of ASCII, the next-line control,
and the spaces and separators of other scripts. -/
def isBlank (c : Char) : Bool :=
  let n := c.toNat
  (0x09 ≤ n && n ≤ 0x0d) || n == 0x20 || n == 0x85 || n == 0xa0 || n == 0x1680 ||
  (0x2000 ≤ n && n ≤ 0x200a) || n == 0x2028 || n == 0x2029 || n == 0x202f || n == 0x205f ||
  n == 0x3000

/-- Characters from the first one that is not blank on. -/
def trimFront (cs : List Char) : List Char := cs.dropWhile isBlank

/-- Characters without blanks at either end. -/
def trim (cs : List Char) : List Char := (trimFront (trimFront cs).reverse).reverse

end SignedPayments
