import SignedPayments.Http.Method
import SignedPayments.Text.Utf8

/-!
# SignedPayments.Http.Header

Headers: names, values, and the values of each name in the order in which they
were added. Names are tokens in lowercase. Values are bytes without controls,
tabs apart; a sensitive one is not to be shown.
-/

namespace SignedPayments

namespace Http

/-- The name of a header. -/
structure HeaderName where
  text : String
deriving DecidableEq

namespace HeaderName

/-- The length of the longest name. -/
def mostLength : Nat := 65535

/-- Reads a name. -/
def ofText (text : String) : Except Fault HeaderName :=
  if isToken text.toList && text.length ≤ mostLength then .ok ⟨text.toLower⟩
  else .error .invalidHeaderName

/-- What the answer may be. -/
def accept : HeaderName := ⟨"accept"⟩

/-- What the body is. -/
def contentType : HeaderName := ⟨"content-type"⟩

/-- Who asks. -/
def authorization : HeaderName := ⟨"authorization"⟩

/-- When a request was signed. -/
def timestamp : HeaderName := ⟨"x-timestamp"⟩

/-- The signature of a request. -/
def signature : HeaderName := ⟨"x-signature"⟩

end HeaderName

/-- The value of a header. -/
structure HeaderValue where
  bytes : Bytes
  sensitive : Bool := false
deriving DecidableEq

namespace HeaderValue

/-- The bytes that may stand in a value. -/
def isValueByte (b : UInt8) : Bool := (0x20 ≤ b && b ≠ 0x7f) || b = 0x09

/-- Reads a value. -/
def ofBytes (bytes : Bytes) : Except Fault HeaderValue :=
  if bytes.all isValueByte then .ok { bytes } else .error .invalidHeaderValue

/-- Reads a value from a text. -/
def ofText (text : String) : Except Fault HeaderValue := ofBytes (Utf8.ofString text)

/-- The characters of a value, if all of them are visible ASCII, spaces or tabs. -/
def toText (value : HeaderValue) : Except Fault String :=
  if value.bytes.all fun b => (0x20 ≤ b && b < 0x7f) || b = 0x09 then
    .ok (String.ofList (value.bytes.map fun b => Char.ofNat b.toNat))
  else .error .headerValueNotText

end HeaderValue

/-- Headers. The values of one name stand in the order in which they were added. -/
abbrev Headers := List (HeaderName × HeaderValue)

namespace Headers

/-- The values of a name. -/
def values (headers : Headers) (name : HeaderName) : List HeaderValue :=
  (headers.filter (·.1 = name)).map (·.2)

/-- Adds a value to those of its name. -/
def append (headers : Headers) (name : HeaderName) (value : HeaderValue) : Headers :=
  List.append headers [(name, value)]

/-- Takes all values of a name away. -/
def erase (headers : Headers) (name : HeaderName) : Headers := headers.filter (·.1 ≠ name)

/-- Gives a name one value in place of all earlier ones. -/
def insert (headers : Headers) (name : HeaderName) (value : HeaderValue) : Headers :=
  append (erase headers name) name value

@[simp] theorem values_append_self (headers : Headers) (name : HeaderName) (value : HeaderValue) :
    (append headers name value).values name = headers.values name ++ [value] := by
  simp [append, values]

@[simp] theorem values_erase_self (headers : Headers) (name : HeaderName) :
    (erase headers name).values name = [] := by
  simp [erase, values]

@[simp] theorem values_insert_self (headers : Headers) (name : HeaderName) (value : HeaderValue) :
    (insert headers name value).values name = [value] := by
  simp [insert]

theorem values_insert_of_ne (headers : Headers) {name other : HeaderName} (value : HeaderValue)
    (h : other ≠ name) : (insert headers name value).values other = headers.values other := by
  have hne : ¬name = other := fun e => h e.symm
  simp only [insert, append, erase, values, List.append_eq, List.filter_append, List.filter_filter,
    List.filter_cons, hne, decide_false, Bool.false_eq_true, if_false, List.filter_nil,
    List.append_nil]
  congr 1
  apply List.filter_congr
  intro x _
  by_cases hx : x.1 = other
  · simp [hx, h]
  · simp [hx]

end Headers

end Http

end SignedPayments
