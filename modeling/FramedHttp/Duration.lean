/-!
# Durations

A span of time in nanoseconds. Its text uses the largest of the units s, ms, µs and ns in which the
span is at least one, and as many decimals as it takes to be exact.
-/

set_option autoImplicit false

namespace FramedHttp

structure Duration where
  nanos : Nat
  deriving DecidableEq, Repr

namespace Duration

def seconds (n : Nat) : Duration := ⟨n * 1000000000⟩

def isZero (d : Duration) : Bool := d.nanos == 0

/-- The lowest `places` decimal digits of a number, without the zeros at the end. -/
def decimals (places n : Nat) : List Char :=
  let digits := Nat.toDigits 10 n
  let padded := List.replicate (places - digits.length) '0' ++ digits
  (padded.reverse.dropWhile (· == '0')).reverse

def inUnit (unit places : Nat) (suffix : String) (nanos : Nat) : String :=
  let fraction := decimals places (nanos % unit)
  let point := if fraction.isEmpty then [] else ['.']
  String.ofList (Nat.toDigits 10 (nanos / unit) ++ point ++ fraction) ++ suffix

def text (d : Duration) : String :=
  if 1000000000 ≤ d.nanos then inUnit 1000000000 9 "s" d.nanos
  else if 1000000 ≤ d.nanos then inUnit 1000000 6 "ms" d.nanos
  else if 1000 ≤ d.nanos then inUnit 1000 3 "µs" d.nanos
  else inUnit 1 0 "ns" d.nanos

end Duration

end FramedHttp
