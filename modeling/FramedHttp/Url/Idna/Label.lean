import FramedHttp.Url.Idna.Combining
import FramedHttp.Url.Idna.Direction
import FramedHttp.Url.Idna.Joining
import FramedHttp.Url.Idna.Valid

/-!
# Labels of a domain name

What a label must keep to: it begins with no mark, its joiners stand where they join something, and in a
domain name with text from right to left it runs in one direction.
-/

set_option autoImplicit false

namespace FramedHttp.Url.Idna

def zeroWidthNonJoiner : Char := '\u200c'

def zeroWidthJoiner : Char := '\u200d'

/-- The next character that is not transparent satisfies the test. -/
def nextIs (test : Char → Bool) (text : List Char) : Bool :=
  match text.dropWhile isTransparent with
  | c :: _ => test c
  | [] => false

/-- The joiners stand behind a sign that joins consonants, or the non-joiner separates two letters that
would be joined. The characters before are given backwards. -/
def joinersFit (before : List Char) : List Char → Bool
  | [] => true
  | c :: rest =>
    let afterVirama := match before with
      | b :: _ => isVirama b
      | [] => false
    let fits :=
      if c = zeroWidthJoiner then afterVirama
      else if c = zeroWidthNonJoiner then
        afterVirama || (nextIs joinsForward before && nextIs joinsBackward rest)
      else true
    fits && joinersFit (c :: before) rest

def beginsWithMark (label : List Char) : Bool :=
  match label with
  | c :: _ => isMark c
  | [] => false

def isWellFormed (label : List Char) : Bool :=
  label.all isValid && !beginsWithMark label && joinersFit [] label

/-- The label holds text that runs from right to left. -/
def runsLeft (label : List Char) : Bool :=
  label.any fun c => [Direction.rightToLeft, .arabicLetter, .arabicNumber].contains (direction c)

def leftwardClasses : List Direction :=
  [.rightToLeft, .arabicLetter, .arabicNumber, .europeanNumber, .europeanSeparator, .commonSeparator,
    .europeanTerminator, .otherNeutral, .boundaryNeutral, .nonspacingMark]

def rightwardClasses : List Direction :=
  [.leftToRight, .europeanNumber, .europeanSeparator, .commonSeparator, .europeanTerminator,
    .otherNeutral, .boundaryNeutral, .nonspacingMark]

/-- The class of the last character that is no mark. -/
def lastClass? (classes : List Direction) : Option Direction :=
  (classes.reverse.dropWhile (· == .nonspacingMark)).head?

def endsIn (allowed : List Direction) (classes : List Direction) : Bool :=
  match lastClass? classes with
  | some d => allowed.contains d
  | none => false

/-- The label runs in the direction of its first character. -/
def hasOneDirection (label : List Char) : Bool :=
  let classes := label.map direction
  match classes with
  | [] => true
  | .leftToRight :: _ =>
    classes.all rightwardClasses.contains && endsIn [.leftToRight, .europeanNumber] classes
  | first :: _ =>
    (first == .rightToLeft || first == .arabicLetter) && classes.all leftwardClasses.contains &&
      endsIn [.rightToLeft, .arabicLetter, .europeanNumber, .arabicNumber] classes &&
      !(classes.contains .europeanNumber && classes.contains .arabicNumber)

end FramedHttp.Url.Idna
