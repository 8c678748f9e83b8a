import FramedHttp.Url.Idna.Domain
import FramedHttp.Url.Ipv4
import FramedHttp.Url.Ipv6

/-!
# Hosts

A host is a domain name or an address. A host in brackets is an IPv6 address. For the well-known schemes
the rest is percent-decoded and brought to ASCII, and what ends in a number is an IPv4 address; for other
schemes it is taken as it stands.
-/

set_option autoImplicit false

namespace FramedHttp.Url

inductive Host where
  | domain (name : List Char)
  | ipv4 (address : Nat)
  | ipv6 (groups : List Nat)
  deriving DecidableEq, Repr

namespace Host

/-- The text inside the brackets of a host that begins with one. -/
def bracketed? (text : List Char) : Option (List Char) :=
  if text.getLast? = some ']' then some (text.drop 1).dropLast else none

def ipv6? (text : List Char) : Option Host :=
  ((bracketed? text).bind Ipv6.parse?).map .ipv6

/-- Characters that no host holds. -/
def isForbidden (c : Char) : Bool :=
  ['\x00', '\t', '\n', '\r', ' ', '#', '/', ':', '<', '>', '?', '@', '[', '\\', ']', '^', '|'].contains c

/-- Characters that no domain name holds. -/
def isForbiddenInDomain (c : Char) : Bool :=
  isForbidden c || decide (c ≤ '\x1f') || c == '%' || c == '\x7f'

def ofAsciiDomain? (name : List Char) : Option Host :=
  if name.isEmpty || name.any isForbiddenInDomain then none
  else if Ipv4.endsInNumber name then (Ipv4.parse? name).map .ipv4
  else some (.domain name)

def parse? (text : List Char) : Option Host :=
  match text with
  | '[' :: _ => ipv6? text
  | _ =>
    (Octets.text? (Percent.decode text)).bind fun decoded =>
      (Idna.toAscii? decoded.toList).bind ofAsciiDomain?

def parseOpaque? (text : List Char) : Option Host :=
  match text with
  | '[' :: _ => ipv6? text
  | _ => if text.any isForbidden then none else some (.domain (Percent.encodeControls text))

def text : Host → List Char
  | .domain name => name
  | .ipv4 address => Ipv4.text address
  | .ipv6 groups => ['['] ++ Ipv6.text groups ++ [']']

end Host

end FramedHttp.Url
