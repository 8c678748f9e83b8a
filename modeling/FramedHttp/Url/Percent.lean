import FramedHttp.Octets

/-!
# Percent encoding

An octet may be written as a percent sign and two hexadecimal digits. Decoding leaves every percent sign
alone that is not followed by two digits.
-/

set_option autoImplicit false

namespace FramedHttp.Url

def hexValue? (c : Char) : Option Nat :=
  if '0' ≤ c ∧ c ≤ '9' then some (c.toNat - 48)
  else if 'a' ≤ c ∧ c ≤ 'f' then some (c.toNat - 87)
  else if 'A' ≤ c ∧ c ≤ 'F' then some (c.toNat - 55)
  else none

namespace Percent

def decode : List Char → Octets
  | '%' :: a :: b :: rest =>
    match hexValue? a, hexValue? b with
    | some x, some y => UInt8.ofNat (16 * x + y) :: decode rest
    | _, _ => 37 :: decode (a :: b :: rest)
  | c :: rest => Octets.ofChars [c] ++ decode rest
  | [] => []

def upperHex (n : Nat) : Char :=
  (Nat.digitChar n).toUpper

def encodeOctet (b : UInt8) : List Char :=
  ['%', upperHex (b.toNat / 16), upperHex (b.toNat % 16)]

/-- Controls and everything beyond ASCII are written in octets. -/
def encodeControls (text : List Char) : List Char :=
  text.flatMap fun c =>
    if ' ' ≤ c ∧ c ≤ '~' then [c] else (Octets.ofChars [c]).flatMap encodeOctet

end Percent

end FramedHttp.Url
