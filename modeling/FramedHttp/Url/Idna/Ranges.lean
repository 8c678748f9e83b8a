import FramedHttp.Url.Percent
import FramedHttp.Url.Fields

/-!
# Ranges of code points

Properties of characters are given as text: words separated by blanks or line ends, each a code point or
two code points with a hyphen between them, in hexadecimal.
-/

set_option autoImplicit false

namespace FramedHttp.Url.Idna

structure Range where
  first : Nat
  last : Nat
  deriving DecidableEq, Repr

def words (text : String) : List (List Char) :=
  (fields ' ' (text.toList.map fun c => if c = '\n' then ' ' else c)).filter (!·.isEmpty)

def hexNumber (digits : List Char) : Nat :=
  digits.foldl (fun n c => 16 * n + (hexValue? c).getD 0) 0

namespace Range

def ofWord (word : List Char) : Range :=
  match fields '-' word with
  | first :: last :: _ => ⟨hexNumber first, hexNumber last⟩
  | _ => ⟨hexNumber word, hexNumber word⟩

def holds (r : Range) (c : Char) : Bool :=
  decide (r.first ≤ c.toNat) && decide (c.toNat ≤ r.last)

end Range

def rangesOf (text : String) : List Range :=
  (words text).map Range.ofWord

def inRanges (ranges : List Range) (c : Char) : Bool :=
  ranges.any (·.holds c)

end FramedHttp.Url.Idna
