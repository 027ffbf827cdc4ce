import SignedPayments.Error
import SignedPayments.Text.Blank
import SignedPayments.Time.Instant

/-!
# SignedPayments.Time.Timestamp

Points in time as text, without an offset: `2024-01-02T03:04:05.000006`.

Design points:

* Writing cuts the fraction to whole microseconds and shows a leap second as
  second 60. A year outside 0 to 9999 carries its sign.
* Reading is more liberal than writing. Blanks may stand before each number, a
  number may be shorter than its width, a year may carry a sign, and then has
  any number of digits. The fraction may be missing; if there is a point, exactly
  six digits follow it.
* Each number is checked when it has been read, the date as a whole at the end.
-/

namespace SignedPayments

namespace Timestamp

/-! ### Writing -/

/-- A year: four digits at least, with a sign outside 0 to 9999. -/
def yearText (year : Int) : List Char :=
  if 0 ≤ year ∧ year < 10000 then Digits.padded 4 year.toNat
  else (if year < 0 then '-' else '+') :: Digits.padded 4 year.natAbs

/-- The characters of a point's text. -/
def chars (t : Instant) : List Char :=
  let date := Date.ofDays t.days
  let second := t.secondOfDay
  yearText date.year ++ '-' :: Digits.padded 2 date.month ++ '-' :: Digits.padded 2 date.day ++
  'T' :: Digits.padded 2 (second / 3600) ++ ':' :: Digits.padded 2 (second / 60 % 60) ++
  ':' :: Digits.padded 2 (second % 60 + if t.isLeap then 1 else 0) ++
  '.' :: Digits.padded 6 t.micros

/-- A point as text. -/
def format (t : Instant) : String := String.ofList (chars t)

/-! ### Reading -/

/-- Why a text is no timestamp. -/
inductive Fault
  /-- A number or the date does not exist. -/
  | outOfRange
  /-- A character stands where another is needed. -/
  | invalid
  /-- The text ends too early. -/
  | tooShort
  /-- Something follows the timestamp. -/
  | trailing
deriving DecidableEq, Repr

/-- A fault in words. -/
def Fault.message : Fault → String
  | .outOfRange => "input is out of range"
  | .invalid => "input contains invalid characters"
  | .tooShort => "premature end of input"
  | .trailing => "trailing input"

/-- The bytes that characters take. -/
def byteLength (cs : List Char) : Nat := (String.ofList cs).utf8ByteSize

/-- Reads a number of `least` digits or more, but not more than `most` if that is
given, and the rest. -/
def number (least : Nat) (most : Option Nat) (cs : List Char) :
    Except Fault (Nat × List Char) :=
  let digits := match most with
    | some n => (cs.take n).takeWhile Digits.isDigit
    | none => cs.takeWhile Digits.isDigit
  -- A text that is too short is told so, whatever its characters are.
  if byteLength cs < least then .error .tooShort
  else if digits.length < least then .error .invalid
  else if 2 ^ 63 ≤ Digits.value digits then .error .outOfRange
  else .ok (Digits.value digits, cs.drop digits.length)

/-- Reads a number of at most two digits between two bounds. -/
def field (low high : Nat) (cs : List Char) : Except Fault (Nat × List Char) := do
  let (n, rest) ← number 1 (some 2) (trimFront cs)
  if low ≤ n ∧ n ≤ high then return (n, rest) else throw .outOfRange

/-- Reads a year, which fits 32 bits with a sign. -/
def yearField (cs : List Char) : Except Fault (Int × List Char) := do
  let cs := trimFront cs
  let (year, rest) ← match cs with
    | '-' :: digits => do
      let (n, rest) ← number 1 none digits
      pure (-(n : Int), rest)
    | '+' :: digits => do
      let (n, rest) ← number 1 none digits
      pure ((n : Int), rest)
    | _ => do
      let (n, rest) ← number 1 (some 4) cs
      pure ((n : Int), rest)
  if -2147483648 ≤ year ∧ year ≤ 2147483647 then return (year, rest) else throw .outOfRange

/-- Reads one given character. -/
def mark (c : Char) : List Char → Except Fault (List Char)
  | [] => .error .tooShort
  | d :: rest => if d = c then .ok rest else .error .invalid

/-- Reads the fraction, in microseconds. -/
def fraction : List Char → Except Fault (Nat × List Char)
  | '.' :: digits => number 6 (some 6) digits
  | rest => .ok (0, rest)

/-- The point at a date and a time of day; second 60 is a leap second. -/
def assemble (date : Date) (hour minute second micros : Nat) : Except Fault Instant :=
  -- A leap second is kept as the second half of second 59.
  let leap := second = 60
  let whole := date.toDays * 86400 + hour * 3600 + minute * 60 + (if leap then 59 else second)
  let nanos := micros * 1000 + (if leap then 1000000000 else 0)
  if date.isValid then
    match Instant.of? whole nanos with
    | some t => .ok t
    | none => .error .outOfRange
  else .error .outOfRange

/-- The point that characters stand for. -/
def ofChars (cs : List Char) : Except Fault Instant := do
  let (year, cs) ← yearField cs
  let cs ← mark '-' cs
  let (month, cs) ← field 1 12 cs
  let cs ← mark '-' cs
  let (day, cs) ← field 1 31 cs
  let cs ← mark 'T' cs
  let (hour, cs) ← field 0 23 cs
  let cs ← mark ':' cs
  let (minute, cs) ← field 0 59 cs
  let cs ← mark ':' cs
  let (second, cs) ← field 0 60 cs
  let (micros, cs) ← fraction cs
  if cs = [] then assemble ⟨year, month, day⟩ hour minute second micros
  else throw .trailing

/-- The point that a text stands for. -/
def parse (text : String) : Except Fault Instant := ofChars text.toList

/-- The error for a text that is no timestamp. -/
def error (text : String) (fault : Fault) : Error :=
  { kind := .unexpected
    message := "parse '" ++ text ++ "' as naive iso8601 failed"
    causes := [fault.message] }

end Timestamp

end SignedPayments
