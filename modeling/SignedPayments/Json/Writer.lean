import SignedPayments.Json.Value
import SignedPayments.Number.Shortest
import SignedPayments.Text.Digits
import SignedPayments.Text.Hex

/-!
# SignedPayments.Json.Writer

Values as JSON texts, without blanks. A string escapes quotes, backslashes and
controls and nothing else. A floating point number is its shortest decimal, with a
point or an exponent in it, so that it is never the text of an integer; one that
is infinite or a NaN is written `null`.
-/

namespace SignedPayments

namespace Json

/-! ### Strings -/

/-- How one character appears in a string. -/
def escape (c : Char) : List Char :=
  if c = '"' then ['\\', '"']
  else if c = '\\' then ['\\', '\\']
  else if c = '\x08' then ['\\', 'b']
  else if c = '\x0c' then ['\\', 'f']
  else if c = '\n' then ['\\', 'n']
  else if c = '\r' then ['\\', 'r']
  else if c = '\t' then ['\\', 't']
  else if c.toNat < 0x20 then
    ['\\', 'u', '0', '0', Hex.digit (c.toNat / 16), Hex.digit (c.toNat % 16)]
  else [c]

/-- A string between its quotes. -/
def stringChars (s : String) : List Char := '"' :: (s.toList.flatMap escape ++ ['"'])

/-! ### Numbers -/

/-- How decimals are laid out. The point of the decimal `d.ddd * 10 ^ n` is written
where it stands if `n` is between `least` and `most`. -/
structure FloatLayout where
  least : Int
  most : Int

/-- Numbers from `0.00001` up to sixteen digits before the point have no exponent. -/
def floatLayout : FloatLayout := ⟨-5, 15⟩

/-- A decimal with an exponent: one digit before the point, and the sign of the
exponent always. -/
def exponentChars (digits : List Char) (exponent : Int) : List Char :=
  let mantissa := match digits with
    | [d] => [d]
    | d :: rest => d :: '.' :: rest
    | [] => []
  let sign := if exponent < 0 then '-' else '+'
  mantissa ++ 'e' :: sign :: Digits.ofNat exponent.natAbs

/-- A decimal without an exponent; `exponent` is that of its first digit. A digit
stands on both sides of the point. -/
def pointChars (digits : List Char) (exponent : Int) : List Char :=
  if exponent < 0 then
    '0' :: '.' :: (List.replicate (exponent.natAbs - 1) '0' ++ digits)
  else
    let whole := exponent.toNat + 1
    if digits.length ≤ whole then
      digits ++ List.replicate (whole - digits.length) '0' ++ ['.', '0']
    else digits.take whole ++ '.' :: digits.drop whole

/-- A decimal as text. -/
def decimalChars (d : Decimal) : List Char :=
  let digits := Digits.ofNat d.digits
  let exponent := d.exponent + digits.length - 1
  if floatLayout.least ≤ exponent ∧ exponent ≤ floatLayout.most then pointChars digits exponent
  else exponentChars digits exponent

/-- A floating point number as text. -/
def floatChars (x : Binary64) : List Char :=
  if x.isFinite then
    let magnitude :=
      if x.isZero then ['0', '.', '0'] else decimalChars (Decimal.shortest x.magnitude)
    if x.negative then '-' :: magnitude else magnitude
  else ['n', 'u', 'l', 'l']

/-- An integer as text. -/
def integerChars (n : Int) : List Char :=
  if n < 0 then '-' :: Digits.ofNat n.natAbs else Digits.ofNat n.natAbs

/-- A number as text. -/
def Number.chars : Number → List Char
  | .integer n => integerChars n
  | .float x _ => floatChars x

/-! ### Values -/

mutual

/-- A value as text. -/
def Value.chars : Value → List Char
  | .null => ['n', 'u', 'l', 'l']
  | .bool true => ['t', 'r', 'u', 'e']
  | .bool false => ['f', 'a', 'l', 's', 'e']
  | .number n => n.chars
  | .string s => stringChars s
  | .array [] => ['[', ']']
  | .array (item :: rest) => '[' :: (item.chars ++ itemsChars rest)
  | .object [] => ['\x7b', '\x7d']
  | .object ((key, value) :: rest) =>
    '\x7b' :: (stringChars key ++ ':' :: (value.chars ++ membersChars rest))

/-- The items after the first one, and the end of the list. -/
def itemsChars : List Value → List Char
  | [] => [']']
  | item :: rest => ',' :: (item.chars ++ itemsChars rest)

/-- The members after the first one, and the end of the object. -/
def membersChars : List (String × Value) → List Char
  | [] => ['\x7d']
  | (key, value) :: rest =>
    ',' :: (stringChars key ++ ':' :: (value.chars ++ membersChars rest))

end

/-- An object as text. -/
def Object.chars (members : Object) : List Char := (Value.object members).chars

/-- An object as text. -/
def Object.text (members : Object) : String := String.ofList members.chars

end Json

end SignedPayments
