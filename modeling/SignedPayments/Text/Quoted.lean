import SignedPayments.Text.Invisible

/-!
# SignedPayments.Text.Quoted

Text between double quotes, for messages. Quotes and backslashes are escaped,
the common controls have short names, and whatever leaves no mark is shown by
its number in hexadecimal digits between braces.
-/

namespace SignedPayments

namespace Quoted

/-- The digits of a number in base 16, lowercase, without leading zeros. -/
def hexDigits (n : Nat) : List Char := Nat.toDigits 16 n

/-- How one character appears between the quotes. -/
def escape (c : Char) : List Char :=
  if c = '\x00' then ['\\', '0']
  else if c = '\t' then ['\\', 't']
  else if c = '\r' then ['\\', 'r']
  else if c = '\n' then ['\\', 'n']
  else if c = '"' then ['\\', '"']
  else if c = '\\' then ['\\', '\\']
  else if c.toNat < 0x20 || c.toNat = 0x7f || (0x7f < c.toNat && isInvisible c) then
    '\\' :: 'u' :: '\x7b' :: (hexDigits c.toNat ++ ['\x7d'])
  else [c]

/-- The characters between the quotes. -/
def body (cs : List Char) : List Char := cs.flatMap escape

end Quoted

/-- A text between double quotes. -/
def quoted (text : String) : String :=
  String.ofList ('"' :: (Quoted.body text.toList ++ ['"']))

end SignedPayments
