import SignedPayments.Http.Uri
import SignedPayments.Text.Digits
import SignedPayments.Url.Host
import SignedPayments.Url.Path

/-!
# SignedPayments.Url.Basic

Urls, in the one form in which they are sent. Reading a uri as a url may change it:
names and schemes become lowercase, a default port is left out, dots are resolved,
and characters are encoded.

A url of the web has an authority and a path. Under another scheme, what has no two
slashes after the scheme is kept as it is.
-/

namespace SignedPayments

/-- A url. -/
structure Url where
  scheme : List Char
  /-- The user, the host and the port, if there is a host. -/
  authority : Option (List Char)
  path : List Char
  query : Option (List Char)
deriving DecidableEq

namespace Url

/-- The schemes of the web that have a default port, and the port. -/
def defaultPorts : List (List Char × Nat) :=
  [("http".toList, 80), ("https".toList, 443), ("ws".toList, 80), ("wss".toList, 443),
   ("ftp".toList, 21)]

/-- The scheme of files. -/
def fileScheme : List Char := "file".toList

/-- Whether a scheme is one of the web. -/
def isWeb (scheme : List Char) : Bool :=
  scheme = fileScheme || (defaultPorts.lookup scheme).isSome

/-- Splits a scheme, in lowercase, from what follows its colon. -/
def splitScheme (cs : List Char) : Except Fault (List Char × List Char) :=
  let isSchemeChar (c : Char) : Bool := c.isAlphanum || c = '+' || c = '-' || c = '.'
  match cs.head?, cs.dropWhile isSchemeChar with
  | some first, ':' :: rest =>
    if first.isAlpha then .ok ((cs.takeWhile isSchemeChar).map Char.toLower, rest)
    else .error .noScheme
  | _, _ => .error .noScheme

/-! ### Authorities -/

/-- Splits characters at the last at sign, if there is one. -/
def splitUser (cs : List Char) : Option (List Char) × List Char :=
  let host := (cs.reverse.takeWhile (· ≠ '@')).reverse
  if host.length = cs.length then (none, cs)
  else (some (cs.take (cs.length - host.length - 1)), host)

/-- The name and the password of a user, with an at sign. Nothing is written where
both are empty. -/
def userChars (user : List Char) : List Char :=
  let name := percentEncode userSpecial (user.takeWhile (· ≠ ':'))
  let password := percentEncode userSpecial ((user.dropWhile (· ≠ ':')).drop 1)
  let shown := if password = [] then name else name ++ ':' :: password
  if shown = [] then [] else shown ++ ['@']

/-- Splits a host from the colon before its port. Colons between brackets belong to
the host. -/
def splitPort (inside : Bool) : List Char → List Char × Option (List Char)
  | [] => ([], none)
  | c :: rest =>
    if c = ':' && !inside then ([], some rest)
    else
      let inside := if c = '[' then true else if c = ']' then false else inside
      let (host, port) := splitPort inside rest
      (c :: host, port)

/-- A port with its colon. A default port and an empty one are left out. -/
def portChars (scheme : List Char) (port : List Char) : Except Fault (List Char) :=
  let n := Digits.value port
  if port.any (!Digits.isDigit ·) || 65535 < n then .error .invalidPort
  else if port = [] || defaultPorts.lookup scheme = some n then .ok []
  else .ok (':' :: Digits.ofNat n)

/-- Reads an authority. -/
def readAuthority (scheme cs : List Char) : Except Fault (List Char) := do
  let (user, rest) := splitUser cs
  if user.isSome && rest = [] then throw .emptyHost
  let (host, port) := splitPort false rest
  if host = [] && (port.isSome || isWeb scheme) then throw .emptyHost
  let host ← if isWeb scheme then webHost host else otherHost host
  let port ← portChars scheme (port.getD [])
  let user := userChars (user.getD [])
  if host = [] && user ≠ [] then throw .emptyHost
  return user ++ host ++ port

/-! ### Files -/

/-- Reads the host of a file. The own host is not written. -/
def fileHost (cs : List Char) : Except Fault (List Char) := do
  if cs = [] then return []
  let host ← webHost cs
  if host = "localhost".toList then return [] else return host

/-- The segments of the path of a file. -/
def fileSegments (cs : List Char) : List (List Char) :=
  (descend true [] ((piecesBy (isSlash true) cs).map (percentEncode pathSpecial))).reverse

/-- The path of a file as text. Empty segments at its start are left out. -/
def fileChars (segments : List (List Char)) : List Char :=
  '/' :: (segmentsChars segments).dropWhile (· = '/')

/-! ### Whole urls -/

/-- Splits a query from what is before it. -/
def splitQuery (cs : List Char) : List Char × Option (List Char) :=
  match cs.dropWhile (· ≠ '?') with
  | [] => (cs, none)
  | _ :: query => (cs.takeWhile (· ≠ '?'), some query)

/-- Reads what follows the scheme of a file, without its query: the host and the path.
A drive stands in place of a host, or takes away the one before it. After a host that
is not written, the first slash follows an empty segment. -/
def fileRest (cs : List Char) : Except Fault (List Char × List Char) := do
  match cs with
  | '/' :: '/' :: rest =>
    let host := rest.takeWhile (!isSlash true ·)
    if isDrive host then return ([], fileChars (fileSegments rest))
    let host ← fileHost host
    let rest := rest.dropWhile (!isSlash true ·)
    let segments := fileSegments (if host = [] then rest else rest.drop 1)
    return (if segments.head?.any isDrive then [] else host, fileChars segments)
  | _ => return ([], fileChars (fileSegments cs))

/-- Reads what follows a scheme. -/
def ofRest (scheme cs : List Char) : Except Fault Url := do
  let web := isWeb scheme
  let (front, query) := splitQuery cs
  let query := query.map (percentEncode (if web then webQuerySpecial else querySpecial))
  if scheme = fileScheme then
    let (host, path) ← fileRest front
    return { scheme := scheme, authority := some host, path := path, query := query }
  else if web || ['/', '/'].isPrefixOf front then
    -- On the web, any number of slashes may stand before the authority.
    let rest := if web then front.dropWhile (isSlash web) else front.drop 2
    let authority ← readAuthority scheme (rest.takeWhile (!isSlash web ·))
    let path := match rest.dropWhile (!isSlash web ·) with
      | [] => if web then ['/'] else []
      | _ :: cs => resolvePath web cs
    return { scheme := scheme, authority := some authority, path := path, query := query }
  else
    let path := match front with
      | '/' :: cs => resolvePath web cs
      | cs => percentEncode [] cs
    return { scheme := scheme, authority := none, path := path, query := query }

/-- Reads a uri as a url. -/
def ofUri (uri : Http.Uri) : Except Fault Url := do
  let (scheme, rest) ← splitScheme uri.text.toList
  ofRest scheme rest

/-- The path and the query of a url, as they are sent. -/
def target (url : Url) : List Char := url.path ++ url.query.elim [] ('?' :: ·)

/-- A url as text. -/
def text (url : Url) : String :=
  String.ofList (url.scheme ++ ':' :: (url.authority.elim [] ('/' :: '/' :: ·) ++ url.target))

end Url

end SignedPayments
