import FramedHttp.Url.Idna.Composed
import FramedHttp.Url.Idna.Label
import FramedHttp.Url.Idna.Mapping
import FramedHttp.Url.Punycode

/-!
# Domain names in ASCII

A domain name is mapped character by character, composed, and cut into labels. A label that begins with
"xn--" is decoded and must be a label that needs the coding; every other label beyond ASCII is encoded.
Both ways of the coding have a limit, far beyond the labels that any name service knows.
-/

set_option autoImplicit false

namespace FramedHttp.Url.Idna

def mapChar (c : Char) : Option (List Char) :=
  match mapped? c with
  | some image => some image
  | none => if isIgnored c then some [] else if isValid c then some [c] else none

def isAscii (text : List Char) : Bool :=
  text.all Punycode.isBasic

def codingMark : List Char := ['x', 'n', '-', '-']

/-- The longest coding that is decoded. -/
def maxCoding : Nat := 2000

/-- The longest label that is encoded. -/
def maxEncoded : Nat := 1000

def decodeCoding? (coding : List Char) : Option (List Char) :=
  if coding.length ≤ maxCoding then Punycode.decode? coding else none

/-- The label behind the coding, with what was wrong about it as nothing. -/
def decodeLabel? (label : List Char) : Option (List Char) :=
  if codingMark.isPrefixOf label then
    (decodeCoding? (label.drop 4)).bind fun decoded =>
      if isAscii decoded || composed decoded != decoded then none else some decoded
  else some label

def isEncodable (label : List Char) : Bool :=
  isAscii label || decide (label.length ≤ maxEncoded)

def encodeLabel (label : List Char) : List Char :=
  if isAscii label then label else codingMark ++ Punycode.encode label

def checkedLabels? (labels : List (List Char)) : Option (List (List Char)) :=
  if labels.all isWellFormed && labels.all isEncodable &&
      (!labels.any runsLeft || labels.all hasOneDirection) then some labels
  else none

def toAscii? (domain : List Char) : Option (List Char) :=
  (domain.mapM mapChar).bind fun images =>
    ((fields '.' (composed images.flatten)).mapM decodeLabel?).bind fun labels =>
      (checkedLabels? labels).map fun labels => joinWith ['.'] (labels.map encodeLabel)

end FramedHttp.Url.Idna
