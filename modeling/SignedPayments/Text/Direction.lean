import SignedPayments.Text.Mark

/-!
# SignedPayments.Text.Direction

The direction in which a character is written, or the part it takes in a text of
either direction. The classes are those of characters that may stand in a label:
one that may not is in the class of its neighbours.
-/

namespace SignedPayments

/-- What a character does to the direction of a text. -/
inductive Direction
  /-- A letter of a script from left to right. -/
  | leftToRight
  /-- A letter of a script from right to left. -/
  | rightToLeft
  /-- A digit of the kind that ASCII has. -/
  | europeanNumber
  /-- A digit of the kind that Arabic texts have. -/
  | arabicNumber
  /-- A mark that goes with the character before it. -/
  | mark
  /-- A sign of no direction of its own. -/
  | neutral
deriving DecidableEq, Repr

namespace Direction

/-- Nonspacing marks that keep a direction of their own. -/
def directedMarks : List (Nat × Nat) :=
  [(0xcbf, 0xcbf), (0xcc6, 0xcc6), (0x11a07, 0x11a08), (0x11c3f, 0x11c3f)]

/-- Digits of the kind that ASCII has. -/
def europeanNumbers : List (Nat × Nat) :=
  [(0x30, 0x39), (0x6f0, 0x6f9), (0x102e1, 0x102fb)]

/-- Digits of the kind that Arabic texts have. -/
def arabicNumbers : List (Nat × Nat) :=
  [(0x660, 0x669), (0x66b, 0x66c), (0x10d30, 0x10d39), (0x10e60, 0x10e7e)]

/-- Signs of no direction of their own. -/
def neutrals : List (Nat × Nat) :=
  [(0x21, 0x40), (0x5b, 0x60), (0x7b, 0xd7), (0xf7, 0xf7), (0x2b9, 0x2ba), (0x2c2, 0x2cf),
   (0x2d2, 0x2ed), (0x2ef, 0x2ff), (0x375, 0x375), (0x3f6, 0x3f6), (0x58a, 0x58f), (0x606, 0x607),
   (0x609, 0x60a), (0x60c, 0x60c), (0x60e, 0x60f), (0x66a, 0x66a), (0x6de, 0x6de), (0x6e9, 0x6e9),
   (0x7f6, 0x7f9), (0x9f2, 0x9f3), (0x9fb, 0x9fb), (0xaf1, 0xaf1), (0xbf3, 0xbfa), (0xc78, 0xc7e),
   (0xe3f, 0xe3f), (0xf3a, 0xf3d), (0x1390, 0x1399), (0x1400, 0x1400), (0x169b, 0x169c),
   (0x17db, 0x17db), (0x17f0, 0x180a), (0x1940, 0x1945), (0x19de, 0x19ff), (0x200c, 0x214d),
   (0x218a, 0x2335), (0x237b, 0x2394), (0x2396, 0x26ab), (0x26ad, 0x27ff), (0x2900, 0x2bff),
   (0x2ce5, 0x2cea), (0x2cf9, 0x2cff), (0x2e00, 0x3004), (0x3008, 0x3020), (0x3030, 0x3030),
   (0x3037, 0x3037), (0x303d, 0x303f), (0x30a0, 0x30a0), (0x30fb, 0x30fb), (0x31c0, 0x31e5),
   (0x4dc0, 0x4dff), (0xa490, 0xa4c6), (0xa60d, 0xa60f), (0xa673, 0xa67f), (0xa700, 0xa721),
   (0xa788, 0xa788), (0xa828, 0xa82b), (0xa838, 0xa839), (0xa874, 0xa877), (0xab6a, 0xab6b),
   (0xfbc3, 0xfe46), (0x10101, 0x10101), (0x10140, 0x1018c), (0x10190, 0x101a0),
   (0x1091f, 0x1091f), (0x10b39, 0x10b3f), (0x10d6e, 0x10d6e), (0x10ed0, 0x10ed8),
   (0x11052, 0x11065), (0x11660, 0x1166c), (0x11fd5, 0x11ff1), (0x16fe2, 0x16fe2),
   (0x1cc00, 0x1cef0), (0x1d1e9, 0x1d245), (0x1d300, 0x1d356), (0x1e2ff, 0x1e2ff),
   (0x1eef0, 0x1f12f), (0x1f16d, 0x1f16f), (0x1f1ad, 0x1f1ad), (0x1f260, 0x1fbfa)]

/-- The blocks of the scripts from right to left. -/
def rightToLeftBlocks : List (Nat × Nat) :=
  [(0x590, 0x8ff), (0xfb1d, 0xfdff), (0xfe70, 0xfeff), (0x10800, 0x10fff), (0x1e800, 0x1efff)]

/-- The direction of a character. What no table holds is written from left to right. -/
def ofChar (c : Char) : Direction :=
  let n := c.toNat
  if isNonspacingMark c && !inRanges directedMarks n then .mark
  else if inRanges europeanNumbers n then .europeanNumber
  else if inRanges arabicNumbers n then .arabicNumber
  else if inRanges neutrals n then .neutral
  else if inRanges rightToLeftBlocks n then .rightToLeft
  else .leftToRight

end Direction

end SignedPayments
