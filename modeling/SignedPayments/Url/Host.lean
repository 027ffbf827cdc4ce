import SignedPayments.Url.Address
import SignedPayments.Url.Label
import SignedPayments.Url.Percent

/-!
# SignedPayments.Url.Host

Hosts. Where the scheme is one of the web, a host is an address or a name, names are
lowercase, and a name that ends in a number must be an address. Under other schemes
a host that is no address of 128 bits is kept as it is.
-/

namespace SignedPayments

namespace Url

/-- Why a text is no url. -/
inductive Fault
  | noScheme
  | emptyHost
  | invalidPort
  | invalidIpv4
  | invalidIpv6
  | invalidName
  | invalidHostCharacter
deriving DecidableEq, Repr

/-- A fault in words. -/
def Fault.message : Fault → String
  | .noScheme => "relative URL without a base"
  | .emptyHost => "empty host"
  | .invalidPort => "invalid port number"
  | .invalidIpv4 => "invalid IPv4 address"
  | .invalidIpv6 => "invalid IPv6 address"
  | .invalidName => "invalid international domain name"
  | .invalidHostCharacter => "invalid domain character"

/-- Reads an address between brackets. -/
def bracketed (inside : List Char) : Except Fault (List Char) :=
  match inside.getLast? with
  | some ']' =>
    match ipv6? inside.dropLast with
    | some numbers => .ok ('[' :: (ipv6Chars numbers ++ [']']))
    | none => .error .invalidIpv6
  | _ => .error .invalidIpv6

/-- What may not stand in a name. -/
def nameForbidden : List Char :=
  [' ', '#', '/', ':', '<', '>', '?', '@', '[', '\\', ']', '^', '|', '%']

/-- Reads a name. -/
def readName (cs : List Char) : Except Fault (List Char) :=
  let lower := cs.map Char.toLower
  if lower.any fun c => isNeverPlain c || nameForbidden.contains c then .error .invalidName
  else if Label.areGood (pieces '.' lower) then .ok lower
  else .error .invalidName

/-- Reads the host of a url of the web. -/
def webHost : List Char → Except Fault (List Char)
  | [] => .error .emptyHost
  | '[' :: inside => bracketed inside
  | cs => do
    let lower ← readName cs
    if endsInNumber lower then
      match ipv4? lower with
      | some n => return ipv4Chars n
      | none => throw .invalidIpv4
    else return lower

/-- What may not stand in a host that is kept as it is. -/
def keptForbidden : List Char :=
  [' ', '#', '/', ':', '<', '>', '?', '@', '[', '\\', ']', '^', '|']

/-- Reads the host of another url. -/
def otherHost : List Char → Except Fault (List Char)
  | '[' :: inside => bracketed inside
  | cs =>
    if cs.any keptForbidden.contains then .error .invalidHostCharacter
    else .ok (percentEncode [] cs)

end Url

end SignedPayments
