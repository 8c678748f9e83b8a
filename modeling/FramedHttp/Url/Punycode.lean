/-!
# Punycode

A label beyond ASCII written in ASCII: its basic characters, then the others in the order of their code
points, each as the distance from the one before in digits of base 36. How many digits a distance takes is
steered by a bias that follows the distances seen so far.
-/

set_option autoImplicit false

namespace FramedHttp.Url.Punycode

def isBasic (c : Char) : Bool := c.toNat < 128

def digit (value : Nat) : Char :=
  if value < 26 then Char.ofNat (97 + value) else Char.ofNat (22 + value)

def value? (c : Char) : Option Nat :=
  if 'a' ≤ c ∧ c ≤ 'z' then some (c.toNat - 97)
  else if 'A' ≤ c ∧ c ≤ 'Z' then some (c.toNat - 65)
  else if '0' ≤ c ∧ c ≤ '9' then some (c.toNat - 22)
  else none

/-- The threshold of the digit at place `k`, between 1 and 26. -/
def threshold (k bias : Nat) : Nat :=
  min (max (k - bias) 1) 26

def shrink (delta k : Nat) : Nat × Nat :=
  if 455 < delta then shrink (delta / 35) (k + 36) else (delta, k)
termination_by delta
decreasing_by exact Nat.div_lt_self (by omega) (by omega)

/-- The bias after a distance, when so many characters are placed. -/
def adapt (delta placed : Nat) (first : Bool) : Nat :=
  let scaled := if first then delta / 700 else delta / 2
  let r := shrink (scaled + scaled / placed) 0
  r.2 + 36 * r.1 / (r.1 + 38)

def distance (bias k q : Nat) : List Char :=
  let t := threshold k bias
  if q < t then [digit q]
  else digit (t + (q - t) % (36 - t)) :: distance bias (k + 36) ((q - t) / (36 - t))
termination_by q
decreasing_by
  have : 1 ≤ threshold k bias := by unfold threshold; omega
  have := Nat.div_le_self (q - threshold k bias) (36 - threshold k bias)
  omega

structure Encoding where
  out : List Char
  delta : Nat := 0
  bias : Nat := 72
  placed : Nat

/-- One character of the label, while the code point `m` is being placed. -/
def Encoding.scan (basics m : Nat) (e : Encoding) (c : Char) : Encoding :=
  if c.toNat < m then { e with delta := e.delta + 1 }
  else if c.toNat = m then
    { out := e.out ++ distance e.bias 36 e.delta
      delta := 0
      bias := adapt e.delta (e.placed + 1) (e.placed == basics)
      placed := e.placed + 1 }
  else e

def Encoding.place (label : List Char) (basics : Nat) : List Nat → Nat → Encoding → Encoding
  | [], _, e => e
  | m :: rest, n, e =>
    let e := label.foldl (Encoding.scan basics m) { e with delta := e.delta + (m - n) * (e.placed + 1) }
    place label basics rest (m + 1) { e with delta := e.delta + 1 }

def encode (label : List Char) : List Char :=
  let basic := label.filter isBasic
  let others := ((label.filter (!isBasic ·)).map Char.toNat).mergeSort.eraseReps
  let lead := if basic.isEmpty then [] else basic ++ ['-']
  (Encoding.place label basic.length others 128 { out := lead, placed := basic.length }).out

/-- Reads distances and inserts a character for each; the sum of the distances is a number of 32 bits. Between
two distances `k` is 36, the weight is 1 and nothing was read of the next one. -/
def insertDistances (bias n i : Nat) (out : List Char) (k weight read : Nat) :
    List Char → Option (List Char)
  | [] => if k = 36 then some out else none
  | c :: rest =>
    match value? c with
    | none => none
    | some d =>
      let read := read + d * weight
      let t := threshold k bias
      if 2 ^ 32 ≤ i + read then none
      else if t ≤ d then insertDistances bias n i out (k + 36) (weight * (36 - t)) read rest
      else
        let placed := out.length + 1
        let point := n + (i + read) / placed
        let position := (i + read) % placed
        if point.isValidChar then
          insertDistances (adapt read placed (i == 0)) point (position + 1)
            (out.take position ++ [Char.ofNat point] ++ out.drop position) 36 1 0 rest
        else none

/-- The part before the last hyphen, if there is one, and the part after it. -/
def splitAtLastHyphen (text : List Char) : List Char × List Char :=
  let tail := (text.reverse.takeWhile (· != '-')).reverse
  let head := text.take (text.length - tail.length - 1)
  if head.isEmpty then ([], text) else (head, tail)

def decode? (text : List Char) : Option (List Char) :=
  let parts := splitAtLastHyphen text
  if parts.1.all isBasic then insertDistances 72 128 0 parts.1 36 1 0 parts.2 else none

end FramedHttp.Url.Punycode
