import SignedPayments.Http.Fault

/-!
# SignedPayments.Http.Uri

Where a request goes: a scheme, an authority, and a target, which is a path with
a query. Each part keeps the characters it was read from, except that the schemes
`http` and `https` of a whole uri may be written in either case.

* A uri with a scheme has an authority. One without is a target alone, or an
  authority alone.
* The authority ends where a slash, a question mark or a number sign stands. What
  follows a number sign is dropped.
* An absolute uri without a path has the path `/`, which is not written in its
  target but shown.
-/

namespace SignedPayments

namespace Http

/-- The most bytes of a uri, and of a target that stands alone. -/
def mostBytes : Nat := 65534

/-! ### Targets -/

/-- The characters of paths. -/
def isPathChar (c : Char) : Bool :=
  let n := c.toNat
  n = 0x21 || n = 0x22 || (0x24 ≤ n && n ≤ 0x3b) || n = 0x3d || (0x40 ≤ n && n ≤ 0x5f) ||
  (0x61 ≤ n && n ≤ 0x7e) || 0x80 ≤ n

/-- The characters of queries. -/
def isQueryChar (c : Char) : Bool :=
  let n := c.toNat
  n = 0x21 || (0x24 ≤ n && n ≤ 0x3b) || n = 0x3d || (0x3f ≤ n && n ≤ 0x7e) || 0x80 ≤ n

/-- A path and a query. The path is empty where none is written. -/
structure Target where
  written : String
  query : Option String
  written_chars : written.toList.all isPathChar = true
  query_chars : query.all (·.toList.all isQueryChar) = true
deriving DecidableEq

namespace Target

/-- Nothing is written. -/
def empty : Target := ⟨"", none, by decide, rfl⟩

/-- The root. -/
def root : Target := ⟨"/", none, by decide, rfl⟩

/-- What stands for a service as a whole. -/
def star : Target := ⟨"*", none, by decide, rfl⟩

/-- Whether nothing is written. -/
def isEmpty (t : Target) : Bool := t.written = "" && t.query.isNone

/-- The path; where none is written, the root. -/
def path (t : Target) : String := if t.written = "" then "/" else t.written

/-- A target of characters that may stand in it. -/
def ofParts (written : List Char) (query : Option (List Char)) : Except Fault Target :=
  if hw : written.all isPathChar = true then
    if hq : (query.map String.ofList).all (·.toList.all isQueryChar) = true then
      .ok ⟨String.ofList written, query.map String.ofList, by simpa using hw, hq⟩
    else .error .invalidUriCharacter
  else .error .invalidUriCharacter

/-- Reads a path and a query; a number sign ends them. -/
def ofChars (cs : List Char) : Except Fault Target :=
  -- What is dropped may hold any characters.
  let cs := cs.takeWhile (· ≠ '#')
  let written := cs.takeWhile (· ≠ '?')
  match cs.dropWhile (· ≠ '?') with
  | [] => ofParts written none
  | _ :: query => ofParts written (some query)

/-- Reads a target that stands alone. -/
def ofText (text : String) : Except Fault Target := do
  if mostBytes < text.utf8ByteSize then throw .uriTooLong
  match text.toList with
  | [] => throw .uriEmpty
  | ['*'] => return star
  | c :: cs =>
    if c = '/' ∨ c = '?' ∨ c = '#' then ofChars (c :: cs) else throw .pathWithoutSlash

end Target

/-! ### Schemes -/

/-- A scheme. -/
structure Scheme where
  name : String
deriving DecidableEq, Repr

namespace Scheme

/-- The scheme of plain requests. -/
def http : Scheme := ⟨"http"⟩

/-- The scheme of secured requests. -/
def https : Scheme := ⟨"https"⟩

/-- The length of the longest scheme. -/
def mostLength : Nat := 64

/-- The characters of schemes. -/
def isSchemeChar (c : Char) : Bool := c.isAlphanum || c = '+' || c = '-' || c = '.' || c = '~'

/-- Reads a scheme that stands alone. -/
def ofText (text : String) : Except Fault Scheme :=
  if text = "http" ∨ text = "https" then .ok ⟨text⟩
  else if mostLength < text.utf8ByteSize then .error .schemeTooLong
  else if text.toList.all isSchemeChar then .ok ⟨text⟩
  else .error .invalidScheme

/-- What stands between a scheme and an authority. -/
def mark : List Char := [':', '/', '/']

/-- Reads the scheme of a uri and its mark, if it has one, and gives the rest. -/
def split (cs : List Char) : Except Fault (Option Scheme × List Char) :=
  let name := cs.takeWhile isSchemeChar
  let rest := cs.dropWhile isSchemeChar
  if mark.isPrefixOf rest && mark.length < cs.length then
    let lower := (String.ofList name).toLower
    if lower = "http" ∨ lower = "https" then .ok (some ⟨lower⟩, rest.drop mark.length)
    else if mostLength < name.length then .error .schemeTooLong
    else .ok (some ⟨String.ofList name⟩, rest.drop mark.length)
  else .ok (none, cs)

end Scheme

/-! ### Authorities -/

/-- An authority: a user, a host and a port. -/
structure Authority where
  text : String
deriving DecidableEq, Repr

namespace Authority

/-- What has been seen of an authority. -/
structure Seen where
  colons : Nat := 0
  opened : Bool := false
  closed : Bool := false
  percent : Bool := false
deriving DecidableEq, Repr

/-- At most this many colons may stand in an address between brackets. -/
def mostColons : Nat := 8

/-- The characters that stand in an authority without further ado. -/
def isPlainChar (c : Char) : Bool := c.isAlphanum || "!$&'()*+,-.;=_~".toList.contains c

/-- Reads one character. What was counted before the end of a user or of an address
in brackets no longer counts. -/
def step (seen : Seen) (c : Char) : Except Fault Seen :=
  if c = ':' then
    if mostColons ≤ seen.colons then .error .invalidAuthority
    else .ok { seen with colons := seen.colons + 1 }
  else if c = '[' then
    if seen.percent || seen.opened then .error .invalidAuthority
    else .ok { seen with opened := true }
  else if c = ']' then
    if !seen.opened || seen.closed then .error .invalidAuthority
    else .ok { seen with closed := true, colons := 0, percent := false }
  else if c = '@' then .ok { seen with colons := 0, percent := false }
  else if c = '%' then .ok { seen with percent := true }
  else if isPlainChar c then .ok seen
  else .error .invalidUriCharacter

/-- Whether a character ends an authority. -/
def isEnd (c : Char) : Bool := c = '/' || c = '?' || c = '#'

/-- Reads the authority at the start of characters, which may be empty, and gives
the rest. -/
def split (cs : List Char) : Except Fault (List Char × List Char) := do
  let front := cs.takeWhile (!isEnd ·)
  let seen ← front.foldlM step {}
  if seen.opened != seen.closed || 1 < seen.colons || front.getLast? = some '@' || seen.percent then
    throw .invalidAuthority
  return (front, cs.dropWhile (!isEnd ·))

/-- Reads an authority that stands alone. -/
def ofText (text : String) : Except Fault Authority := do
  if text = "" then throw .uriEmpty
  let (_, rest) ← split text.toList
  if rest = [] then return ⟨text⟩ else throw .invalidUriCharacter

end Authority

/-! ### Uris -/

/-- A uri. -/
structure Uri where
  scheme : Option Scheme
  authority : Option Authority
  target : Target
deriving DecidableEq

namespace Uri

/-- The root, of no authority. -/
def root : Uri := ⟨none, none, .root⟩

/-- Reads a uri that is no target alone. -/
def ofWhole (cs : List Char) : Except Fault Uri := do
  let (scheme, rest) ← Scheme.split cs
  if rest = [] then throw .uriEmpty
  let (authority, rest) ← Authority.split rest
  match scheme with
  | none =>
    -- An authority alone has no target.
    if rest ≠ [] then throw .invalidUriFormat
    return ⟨none, some ⟨String.ofList authority⟩, .empty⟩
  | some scheme =>
    if authority = [] then throw .invalidUriFormat
    return ⟨some scheme, some ⟨String.ofList authority⟩, ← Target.ofChars rest⟩

/-- Reads a uri. -/
def ofText (text : String) : Except Fault Uri := do
  if mostBytes < text.utf8ByteSize then throw .uriTooLong
  match text.toList with
  | [] => throw .uriEmpty
  | ['/'] => return ⟨none, none, .root⟩
  | ['*'] => return ⟨none, none, .star⟩
  | [c] =>
    if c.toNat < 0x80 then return ⟨none, some (← Authority.ofText text), .empty⟩
    else ofWhole [c]
  | '/' :: rest => return ⟨none, none, ← Target.ofChars ('/' :: rest)⟩
  | cs => ofWhole cs

/-- Whether a path is shown. -/
def hasPath (uri : Uri) : Bool := !uri.target.isEmpty || uri.scheme.isSome

/-- The path. -/
def path (uri : Uri) : String := if uri.hasPath then uri.target.path else ""

/-- The query. -/
def query (uri : Uri) : Option String := uri.target.query

/-- A uri as text. -/
def text (uri : Uri) : String :=
  uri.scheme.elim "" (·.name ++ "://") ++ uri.authority.elim "" (·.text) ++ uri.path ++
  uri.query.elim "" ("?" ++ ·)

/-! ### Parts -/

/-- Puts a uri together. A scheme needs both other parts, and an authority with a
target needs a scheme. -/
def ofParts (scheme : Option Scheme) (authority : Option Authority) (target : Option Target) :
    Except Fault Uri :=
  match scheme, authority, target with
  | some _, none, _ => .error .authorityMissing
  | some _, some _, none => .error .pathMissing
  | none, some _, some _ => .error .schemeMissing
  | scheme, authority, target => .ok ⟨scheme, authority, target.getD .empty⟩

/-- The target of a uri that shows a path. -/
def target? (uri : Uri) : Option Target := if uri.hasPath then some uri.target else none

end Uri

end Http

end SignedPayments
