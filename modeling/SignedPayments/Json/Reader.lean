import SignedPayments.Json.Token
import SignedPayments.Json.Writer
import SignedPayments.Text.Quoted

/-!
# SignedPayments.Json.Reader

Reads values from tokens. The state is the list of open lists and objects with
what they hold so far, and what may come next; each token is one step. At most
127 lists and objects may be open at a time.

A text may hold another: an object whose first key is `embeddingKey` has one member,
a string, and stands for the value of the text in this string. What is wrong in the
text within is told with its place there. Where an object is asked for, that object
itself has no such key.
-/

namespace SignedPayments

namespace Json

namespace Reader

/-- The key of a text within a text. -/
def embeddingKey : String := "$serde_json::private::RawValue"

/-- A list or an object that is open. -/
inductive Frame
  /-- The items so far, the last one first. -/
  | list (items : List Value)
  /-- The members so far, and the key of the value that is being read. -/
  | object (members : Object) (key : String)

/-- What may come next. -/
inductive Expect
  | value
  | firstItem
  /-- An item after a comma. -/
  | item
  /-- The first key of an object, which may embed a text if `embeds`. -/
  | firstKey (embeds : Bool)
  /-- A key after a comma. -/
  | key (members : Object)
  | colon (members : Object) (key : String)
  /-- The colon before a text within the text. -/
  | embeddingColon
  /-- A text within the text. -/
  | embedded
  /-- The end of an object that embeds a text of this value. -/
  | embeddingEnd (value : Value)
  | next
  /-- The whole value is complete. -/
  | done (value : Value)

/-- A state of the reader. -/
structure State where
  expect : Expect
  frames : List Frame

/-- How many lists and objects may be open. -/
def mostFrames : Nat := 127

/-- Completes a value. -/
def complete (value : Value) : List Frame → State
  | [] => ⟨.done value, []⟩
  | .list items :: rest => ⟨.next, .list (value :: items) :: rest⟩
  | .object members key :: rest => ⟨.next, .object (members.insert key value) key :: rest⟩

/-- The value that a word stands for. -/
def ofWord : Word → Value
  | .null => .null
  | .true => .bool true
  | .false => .bool false

/-- A fault just after the first byte of a token. -/
def unexpected (l : Lexeme) (reason : Reason) : Except Token.Stop State :=
  .error (reason, l.start + 1)

/-- Opens a list or an object. -/
def openFrame (l : Lexeme) (frames : List Frame) (s : State) : Except Token.Stop State :=
  if frames.length < mostFrames then .ok s else unexpected l .tooDeep

/-- Reads the first token of a value. -/
def stepValue (frames : List Frame) (l : Lexeme) : Except Token.Stop State :=
  match l.token with
  | .word w => .ok (complete (ofWord w) frames)
  | .number n => .ok (complete (.number n) frames)
  | .string s => .ok (complete (.string s) frames)
  | .listStart => openFrame l frames ⟨.firstItem, .list [] :: frames⟩
  | .objectStart => openFrame l frames ⟨.firstKey true, frames⟩
  | .faulty reason | .faultyString reason => .error (reason, l.stop)
  | .listEnd | .objectEnd | .comma | .colon | .stray => unexpected l .valueExpected

/-- A value that is not of the type that is needed, in words. -/
def describe : Value → String
  | .null => "null"
  | .bool b => "boolean `" ++ (if b then "true" else "false") ++ "`"
  | .number (.integer n) => "integer `" ++ String.ofList (integerChars n) ++ "`"
  | .number (.float x _) => "floating point `" ++ String.ofList (floatChars x) ++ "`"
  | .string s => "string " ++ quoted s
  | .array _ => "sequence"
  | .object _ => "map"

/-- What is wrong with the first token of a value, where a value of a type is needed
that this token does not begin. Of a list or an object, nothing has been read yet. -/
def mismatch (wanted : String) (l : Lexeme) : Token.Stop :=
  let found (value : Value) : Reason := .typeExpected (describe value) wanted
  match l.token with
  | .word w => (found (ofWord w), l.stop)
  | .number n => (found (.number n), l.stop)
  | .string s => (found (.string s), l.stop)
  | .listStart => (found (.array []), l.start)
  | .objectStart => (found (.object []), l.start)
  | .faulty reason | .faultyString reason => (reason, l.stop)
  | .listEnd | .objectEnd | .comma | .colon | .stray => (.valueExpected, l.start + 1)

/-- Reads a key. -/
def stepKey (embeds : Bool) (members : Object) (frames : List Frame) (l : Lexeme) :
    Except Token.Stop State :=
  match l.token with
  | .string key =>
    .ok ⟨if embeds && key = embeddingKey then .embeddingColon else .colon members key, frames⟩
  | .faultyString reason => .error (reason, l.stop)
  | _ => unexpected l .keyNotText

/-- Reads a token after a complete value. -/
def stepNext (frames : List Frame) (l : Lexeme) : Except Token.Stop State :=
  match frames, l.token with
  | .list _ :: _, .comma => .ok ⟨.item, frames⟩
  | .list items :: rest, .listEnd => .ok (complete (.array items.reverse) rest)
  | .list _ :: _, _ => unexpected l .listEndExpected
  -- The next key is not known yet, so the object leaves the list of what is open.
  | .object members _ :: rest, .comma => .ok ⟨.key members, rest⟩
  | .object members _ :: rest, .objectEnd => .ok (complete (.object members) rest)
  | .object _ _ :: _, _ => unexpected l .objectEndExpected
  | [], _ => unexpected l .trailingCharacters

/-- Reads a token that holds no text within the text. -/
def step (s : State) (l : Lexeme) : Except Token.Stop State :=
  match s.expect, l.token with
  | .value, _ => stepValue s.frames l
  | .firstItem, .listEnd => .ok (complete (.array []) s.frames.tail)
  | .firstItem, _ => stepValue s.frames l
  | .item, .listEnd => unexpected l .trailingComma
  | .item, _ => stepValue s.frames l
  | .firstKey _, .objectEnd => .ok (complete (.object []) s.frames)
  | .firstKey embeds, _ => stepKey embeds [] s.frames l
  | .key _, .objectEnd => unexpected l .trailingComma
  | .key members, _ => stepKey false members s.frames l
  | .colon members key, .colon => .ok ⟨.value, .object members key :: s.frames⟩
  | .embeddingColon, .colon => .ok ⟨.embedded, s.frames⟩
  | .colon _ _, _ | .embeddingColon, _ => unexpected l .colonExpected
  | .embedded, _ => .error (mismatch "raw value" l)
  | .embeddingEnd value, .objectEnd => .ok (complete value s.frames)
  | .embeddingEnd _, .comma => unexpected l .trailingComma
  | .embeddingEnd _, _ => unexpected l .trailingCharacters
  | .next, _ => stepNext s.frames l
  | .done _, _ => unexpected l .trailingCharacters

/-- The value at the end of the tokens, or what is missing. -/
def State.finish (s : State) : Except Reason Value :=
  match s.expect, s.frames with
  | .done value, _ => .ok value
  | .firstItem, _ | .next, .list _ :: _ => .error .endInList
  | .firstKey _, _ | .colon _ _, _ | .embeddingColon, _ | .embeddingEnd _, _
  | .next, .object _ _ :: _ => .error .endInObject
  | .value, _ | .item, _ | .key _, _ | .embedded, _ | .next, [] => .error .endInValue

/-- A text that is read, and what reads the texts within it. -/
structure Source where
  bytes : Bytes
  inner : String → Except Fault Value

namespace Source

/-- A fault that is noticed when `offset` bytes have been read, or at the end. -/
def fault (source : Source) : Token.Stop → Fault
  | (reason, offset) => .after source.bytes (min offset source.bytes.length) reason

/-- Reads a token. -/
def step (source : Source) (s : State) (l : Lexeme) : Except Fault State :=
  match s.expect, l.token with
  | .embedded, .string text =>
    match source.inner text with
    | .ok value => .ok ⟨.embeddingEnd value, s.frames⟩
    | .error fault => .error fault
  | _, _ =>
    match Reader.step s l with
    | .ok s' => .ok s'
    | .error stop => .error (source.fault stop)

/-- Reads tokens. -/
def run (source : Source) (s : State) : List Lexeme → Except Fault Value
  | [] =>
    match s.finish with
    | .ok value => .ok value
    | .error reason => .error (source.fault (reason, source.bytes.length))
  | l :: rest =>
    match source.step s l with
    | .ok s' => source.run s' rest
    | .error fault => .error fault

end Source

/-- Reads a value that holds texts within texts up to a depth. -/
def readWithin : Nat → Bytes → Except Fault Value
  | 0, bytes => .error (.after bytes 0 .tooDeep)
  | depth + 1, bytes =>
    let source : Source := ⟨bytes, fun text => readWithin depth (Utf8.ofString text)⟩
    source.run ⟨.value, []⟩ (Token.lexemes 0 bytes)

end Reader

/-- Reads a value. A text within a text has fewer bytes than that, so no depth is too
small that exceeds the number of bytes. -/
def Value.read (bytes : Bytes) : Except Fault Value :=
  Reader.readWithin (bytes.length + 1) bytes

/-- Reads an object. -/
def Object.read (bytes : Bytes) : Except Fault Object :=
  let source : Reader.Source := ⟨bytes, fun text => Value.read (Utf8.ofString text)⟩
  let read (s : Reader.State) (lexemes : List Lexeme) : Except Fault Object :=
    match source.run s lexemes with
    | .ok (.object members) => .ok members
    | .ok value => .error (source.fault (.typeExpected (Reader.describe value) "a map", 0))
    | .error fault => .error fault
  match Token.lexemes 0 bytes with
  | [] => read ⟨.value, []⟩ []
  | l :: rest =>
    match l.token with
    | .objectStart => read ⟨.firstKey false, []⟩ rest
    | _ => .error (source.fault (Reader.mismatch "a map" l))

end Json

end SignedPayments
