import FramedHttp.Url.Fields
import FramedHttp.Url.Percent

/-!
# IPv4 addresses in a host

A host whose last label is a number is an IPv4 address or nothing. Up to four numbers, in decimal, octal
or hexadecimal; the last one fills all the octets that are left.
-/

set_option autoImplicit false

namespace FramedHttp.Url.Ipv4

def digitValue? (base : Nat) (c : Char) : Option Nat :=
  match hexValue? c with
  | some v => if v < base then some v else none
  | none => none

def digits (base : Nat) (text : List Char) : Option Nat :=
  text.foldl (fun n? c => n?.bind fun n => (digitValue? base c).map fun v => base * n + v) (some 0)

/-- A leading zero announces octal, a leading "0x" hexadecimal; after that no digit at all is zero. -/
def number? : List Char → Option Nat
  | [] => none
  | '0' :: 'x' :: rest => digits 16 rest
  | '0' :: 'X' :: rest => digits 16 rest
  | '0' :: c :: rest => digits 8 (c :: rest)
  | text => digits 10 text

/-- The labels, without the empty one behind a final dot. -/
def labels (host : List Char) : List (List Char) :=
  let parts := fields '.' host
  if parts.getLast? = some [] then parts.dropLast else parts

def endsInNumber (host : List Char) : Bool :=
  match (labels host).getLast? with
  | none => false
  | some label =>
    (!label.isEmpty && label.all Char.isDigit) || (number? label).isSome

/-- The numbers before the last one are an octet each. -/
def combine : List Nat → Nat → Option Nat
  | [], _ => none
  | [n], places => if n < 256 ^ places then some n else none
  | n :: rest, places =>
    if n < 256 then (combine rest (places - 1)).map fun low => n * 256 ^ (places - 1) + low else none

def parse? (host : List Char) : Option Nat :=
  let parts := labels host
  if 4 < parts.length then none
  else (parts.mapM number?).bind fun numbers => combine numbers 4

def text (address : Nat) : List Char :=
  joinWith ['.'] ([3, 2, 1, 0].map fun place => Nat.toDigits 10 (address / Nat.pow 256 place % 256))

end FramedHttp.Url.Ipv4
