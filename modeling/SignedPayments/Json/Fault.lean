import SignedPayments.Bytes
import SignedPayments.Text.Digits

/-!
# SignedPayments.Json.Fault

Why bytes are no JSON text, or a value cannot be written as one, and where. A
place is a line, counted from one, and a column, counted in bytes: the column of
the byte last read, so that a line which has just begun has column zero. Line
zero stands for no place.
-/

namespace SignedPayments

namespace Json

/-- What is wrong with a text. -/
inductive Reason
  | endInList
  | endInObject
  | endInString
  | endInValue
  | colonExpected
  | listEndExpected
  | objectEndExpected
  | wordExpected
  | valueExpected
  | invalidEscape
  | invalidNumber
  | numberOutOfRange
  | invalidUnicode
  | controlCharacter
  | keyNotText
  | loneSurrogate
  | halfSurrogatePair
  | trailingComma
  | trailingCharacters
  | tooDeep
  /-- A value of another type, described by `found`, stands where `wanted` is needed. -/
  | typeExpected (found wanted : String)
  /-- Anything else. -/
  | other (message : String)
deriving DecidableEq, Repr

namespace Reason

/-- A reason in words. -/
def message : Reason → String
  | endInList => "EOF while parsing a list"
  | endInObject => "EOF while parsing an object"
  | endInString => "EOF while parsing a string"
  | endInValue => "EOF while parsing a value"
  | colonExpected => "expected `:`"
  | listEndExpected => "expected `,` or `]`"
  | objectEndExpected => "expected `,` or `\x7d`"
  | wordExpected => "expected ident"
  | valueExpected => "expected value"
  | invalidEscape => "invalid escape"
  | invalidNumber => "invalid number"
  | numberOutOfRange => "number out of range"
  | invalidUnicode => "invalid unicode code point"
  | controlCharacter => "control character (\\u0000-\\u001F) found while parsing a string"
  | keyNotText => "key must be a string"
  | loneSurrogate => "lone leading surrogate in hex escape"
  | halfSurrogatePair => "unexpected end of hex escape"
  | trailingComma => "trailing comma"
  | trailingCharacters => "trailing characters"
  | tooDeep => "recursion limit exceeded"
  | typeExpected found wanted => "invalid type: " ++ found ++ ", expected " ++ wanted
  | other message => message

end Reason

/-- A reason and its place. -/
structure Fault where
  reason : Reason
  line : Nat
  column : Nat
deriving DecidableEq, Repr

namespace Fault

/-- The byte that ends a line. -/
def lineEnd : UInt8 := 10

/-- The fault found when `offset` bytes of a text have been read. -/
def after (bytes : Bytes) (offset : Nat) (reason : Reason) : Fault :=
  let read := bytes.take offset
  { reason := reason
    line := read.count lineEnd + 1
    column := (read.reverse.takeWhile (· ≠ lineEnd)).length }

/-- A fault in words. -/
def text (fault : Fault) : String :=
  if fault.line = 0 then fault.reason.message
  else fault.reason.message ++ " at line " ++ Digits.text fault.line ++
    " column " ++ Digits.text fault.column

/-! ### Faults from words

A message that ends in a place is taken apart again, so that the fault has that
place. Only numbers of 64 bits are places. -/

/-- What stands between the message and the line. -/
def lineMark : List Char := " at line ".toList

/-- What stands between the line and the column. -/
def columnMark : List Char := " column ".toList

/-- The number that digits stand for, if there are digits and 64 bits hold it. -/
def number? (digits : List Char) : Option Nat :=
  if digits = [] ∨ 2 ^ 64 ≤ Digits.value digits then none else some (Digits.value digits)

/-- The line and the column that characters say, if nothing else follows. -/
def place? (cs : List Char) : Option (Nat × Nat) := do
  let line := cs.takeWhile Digits.isDigit
  let rest := cs.dropWhile Digits.isDigit
  let column := rest.drop columnMark.length
  if columnMark.isPrefixOf rest && column.all Digits.isDigit then
    return (← number? line, ← number? column)
  else none

/-- The last of the places where `mark` stands: what is before it, and what is
after it. -/
def splitLast? (mark : List Char) : List Char → Option (List Char × List Char)
  | [] => none
  | c :: cs =>
    match splitLast? mark cs with
    | some (front, back) => some (c :: front, back)
    | none => if mark.isPrefixOf (c :: cs) then some ([], (c :: cs).drop mark.length) else none

/-- The fault that a message describes. -/
def ofMessage (message : String) : Fault :=
  let whole : Fault := ⟨.other message, 0, 0⟩
  match splitLast? lineMark message.toList with
  | none => whole
  | some (front, back) =>
    match place? back with
    | some (line, column) => ⟨.other (String.ofList front), line, column⟩
    | none => whole

end Fault

end Json

end SignedPayments
