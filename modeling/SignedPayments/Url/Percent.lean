import SignedPayments.Text.Hex
import SignedPayments.Text.Utf8

/-!
# SignedPayments.Url.Percent

Percent encoding. What may not stand in a part of a url is written as its bytes, each
as a percent sign and two digits of base 16. Controls and characters beyond ASCII
may stand in no part.
-/

namespace SignedPayments

namespace Url

/-- The digits of a byte, in uppercase, after a percent sign. -/
def percentByte (b : UInt8) : List Char :=
  ['%', (Hex.digit (b.toNat / 16)).toUpper, (Hex.digit (b.toNat % 16)).toUpper]

/-- Whether a character may stand in no part of a url. -/
def isNeverPlain (c : Char) : Bool := c.toNat < 0x20 || 0x7e < c.toNat

/-- Encodes one character, if it is among `special` or may stand nowhere. -/
def percentChar (special : List Char) (c : Char) : List Char :=
  if isNeverPlain c || special.contains c then (Utf8.encode [c]).flatMap percentByte else [c]

/-- Encodes characters. -/
def percentEncode (special : List Char) (cs : List Char) : List Char :=
  cs.flatMap (percentChar special)

/-- What is encoded in queries. -/
def querySpecial : List Char := [' ', '"', '#', '<', '>']

/-- What is encoded in queries of the schemes of the web. -/
def webQuerySpecial : List Char := '\'' :: querySpecial

/-- What is encoded in paths. -/
def pathSpecial : List Char := querySpecial ++ ['\x60', '?', '\x7b', '\x7d']

/-- What is encoded in the names and passwords of users. -/
def userSpecial : List Char :=
  pathSpecial ++ ['/', ':', ';', '=', '@', '[', '\\', ']', '^', '|']

end Url

end SignedPayments
