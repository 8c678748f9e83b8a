import FramedHttp.Url.Idna.Combining
import FramedHttp.Url.Idna.Composition

/-!
# Composed form

The one way to write a text with combining characters: everything is taken apart, marks are put in the
order of their classes, and a base takes up the marks it can be composed with, as long as no mark of the
same class or a higher one stands between.
-/

set_option autoImplicit false

namespace FramedHttp.Url.Idna

/-- Only the first of the two characters can be a composite again. -/
def splitUpTo : Nat → Char → List Char
  | 0, c => [c]
  | n + 1, c =>
    match splitOne? c with
    | some (a, b) => splitUpTo n a ++ [b]
    | none => [c]

def decompose (text : List Char) : List Char :=
  text.flatMap (splitUpTo 4)

/-- Puts a character in front of marks in order, behind those of a lower class. -/
def insertMark (c : Char) : List Char → List Char
  | [] => [c]
  | d :: rest =>
    if combiningClass c != 0 && combiningClass d != 0 && decide (combiningClass d < combiningClass c) then
      d :: insertMark c rest
    else c :: d :: rest

def orderMarks (text : List Char) : List Char :=
  text.foldr insertMark []

/-- Composes behind the base `base`, past the marks that were not taken up; `highest` is the class of the
last of them. -/
def composeFrom (base : Char) (kept : List Char) (highest : Nat) : List Char → List Char
  | [] => base :: kept
  | c :: rest =>
    let cls := combiningClass c
    let free := kept.isEmpty || decide (highest < cls)
    match (if free then composeTwo? base c else none) with
    | some whole => composeFrom whole kept highest rest
    | none =>
      if cls == 0 then base :: kept ++ composeFrom c [] 0 rest
      else composeFrom base (kept ++ [c]) cls rest

/-- Marks without a base stay as they are. -/
def compose : List Char → List Char
  | [] => []
  | c :: rest => if combiningClass c == 0 then composeFrom c [] 0 rest else c :: compose rest

def composed (text : List Char) : List Char :=
  if text.all fun c => c.toNat < 128 then text else compose (orderMarks (decompose text))

end FramedHttp.Url.Idna
