import SignedPayments.Text.Canonical
import SignedPayments.Text.Direction
import SignedPayments.Text.Joining
import SignedPayments.Url.Label.Allowed
import SignedPayments.Url.Punycode

/-!
# SignedPayments.Url.Label

Labels, the parts of a name between its full stops. A label with characters beyond
ASCII has an ASCII form, and that form is good only if the label it stands for is: in
the characters that are allowed, in its normal spelling, not with a mark first, and
with joiners only where they make a difference. Where a name holds characters that are
written from right to left, each of its labels must keep to one direction.
-/

namespace SignedPayments

namespace Url

namespace Label

/-- What stands before the ASCII form of a label. -/
def encodedMark : List Char := ['x', 'n', '-', '-']

/-- How many characters may stand after that mark. -/
def mostEncoded : Nat := 2000

/-- How many characters a label beyond ASCII may have. -/
def mostDecoded : Nat := 1000

/-! ## Joiners -/

/-- Keeps letters apart that would join. -/
def nonJoiner : Char := '\u200c'

/-- Joins letters that would not. -/
def joiner : Char := '\u200d'

/-- Whether a character takes the vowel off the letter before it. -/
def isVirama (c : Char) : Bool := Canonical.combiningClass c.toNat == Canonical.viramaClass

/-- Whether a non-joiner keeps letters apart: what stands before it, held backwards,
joins what comes next, and what stands after it joins what comes before. -/
def keepsApart (before after : List Char) : Bool :=
  (before.dropWhile joinsThrough).head?.any joinsNext &&
  (after.dropWhile joinsThrough).head?.any joinsPrevious

/-- Whether every joiner makes a difference. Either kind does after a virama, where it
chooses the shape of the letters; otherwise only a non-joiner between letters that
would join. What stands before is held backwards. -/
def joinersOk (before : List Char) : List Char → Bool
  | [] => true
  | c :: after =>
    (if c = nonJoiner then before.head?.any isVirama || keepsApart before after
      else if c = joiner then before.head?.any isVirama
      else true) &&
    joinersOk (c :: before) after

/-! ## Directions -/

/-- Whether a label makes the direction of its name matter. -/
def turns (label : List Char) : Bool :=
  label.any fun c => [.rightToLeft, .arabicNumber].contains (Direction.ofChar c)

/-- Whether a label keeps to one direction: that of its first character, which is a
letter. It ends in a letter of that direction or a digit, marks aside, and has digits
of one kind only. -/
def keepsDirection (label : List Char) : Bool :=
  let directions := label.map Direction.ofChar
  let endsIn (ends : List Direction) : Bool :=
    (directions.reverse.dropWhile (· == .mark)).head?.any ends.contains
  match directions with
  | [] => true
  | .leftToRight :: _ =>
    directions.all [.leftToRight, .europeanNumber, .neutral, .mark].contains &&
    endsIn [.leftToRight, .europeanNumber]
  | .rightToLeft :: _ =>
    !directions.contains .leftToRight &&
    !(directions.contains .europeanNumber && directions.contains .arabicNumber) &&
    endsIn [.rightToLeft, .europeanNumber, .arabicNumber]
  | _ => false

/-! ## Names -/

/-- Whether characters are a label that has an ASCII form: one beyond ASCII, and good. -/
def hasAsciiForm (label : List Char) : Bool :=
  label.any (0x80 ≤ ·.toNat) &&
  label.length ≤ mostDecoded &&
  label.all (fun c => c.toNat < 0x80 || isAllowed c) &&
  Canonical.isNormal label &&
  !label.head?.any isMark &&
  joinersOk [] label &&
  !encodedMark.isPrefixOf label

/-- The characters of a label that may be in its ASCII form. -/
def ofAscii? (label : List Char) : Option (List Char) :=
  if encodedMark.isPrefixOf label then do
    let form := label.drop encodedMark.length
    guard (form.length ≤ mostEncoded)
    let decoded ← Punycode.decode? form
    guard (hasAsciiForm decoded)
    return decoded
  else some label

/-- Whether the labels of a name, in ASCII, are good each and together. -/
def areGood (labels : List (List Char)) : Bool :=
  match labels.mapM ofAscii? with
  | some decoded => !decoded.any turns || decoded.all keepsDirection
  | none => false

end Label

end Url

end SignedPayments
