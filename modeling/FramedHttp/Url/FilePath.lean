import FramedHttp.Url.Fields
import FramedHttp.Url.Text

/-!
# Paths of files

A path is walked segment by segment; dots stay or go back. A drive letter that comes to stand first names
the drive, and is final. Further down a drive letter is a segment like others, but no dots lead back across
it.
-/

set_option autoImplicit false

namespace FramedHttp.Url

def isDriveLetter (text : List Char) : Bool :=
  match text with
  | [a, b] => a.isAlpha && (b == ':' || b == '|')
  | _ => false

namespace FilePath

def isDot (segment : List Char) : Bool :=
  [".", "%2e"].contains (String.ofList (segment.map Char.toLower))

def isDoubleDot (segment : List Char) : Bool :=
  ["..", ".%2e", "%2e.", "%2e%2e"].contains (String.ofList (segment.map Char.toLower))

/-- Back from the innermost segment. -/
def back (segments : List (List Char)) : List (List Char) :=
  match segments with
  | [] => []
  | segment :: outer => if isDriveLetter segment then segment :: outer else outer

/-- A drive letter with a colon that a tab or a line end parts from more text of its segment, and that text. -/
def brokenDrive? (raw : List Char) : Option (List Char × List Char) :=
  match raw.dropWhile isTabOrLineEnd with
  | [] => none
  | letter :: afterLetter =>
    match afterLetter.dropWhile isTabOrLineEnd with
    | ':' :: afterColon =>
      match afterColon.head?.any isTabOrLineEnd, essential afterColon with
      | true, c :: rest => if letter.isAlpha then some ([letter, ':'], c :: rest) else none
      | _, _ => none
    | _ => none

/-- One segment further, with the innermost segment first; nothing when the drive is reached. A broken drive
letter at the start makes two segments and is no drive. -/
def walk? (segments : List (List Char)) (raw : List Char) : Option (List (List Char)) :=
  match segments, brokenDrive? raw with
  | [], some (letter, rest) => some [rest, letter]
  | _, _ =>
    let segment := essential raw
    if isDot segment then some segments
    else if isDoubleDot segment then some (back segments)
    else if segments.isEmpty && isDriveLetter segment then none
    else some (segment :: segments)

def reachesDrive : List (List Char) → List (List Char) → Bool
  | _, [] => false
  | segments, raw :: rest =>
    match walk? segments raw with
    | none => true
    | some segments => reachesDrive segments rest

/-- The path that begins behind a first slash, and ends where a query or a fragment begins, names a drive. -/
def namesDrive (path : List Char) : Bool :=
  let path := path.takeWhile fun c => c != '?' && c != '#'
  reachesDrive [] (fields '/' (path.map fun c => if c == '\\' then '/' else c))

end FilePath

end FramedHttp.Url
