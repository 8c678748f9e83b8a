import FramedHttp.Url.FilePath
import FramedHttp.Url.Host

/-!
# The authority of a target

The host that an absolute URL names, with the port unless it is the one that goes without saying.
Everything else has no host: relative targets, URLs without an authority, and URLs that are not well formed
up to the path.
-/

set_option autoImplicit false

namespace FramedHttp.Url

inductive Scheme where
  /-- A well-known scheme with its own port. -/
  | special (port : Nat)
  | file
  | other
  deriving DecidableEq, Repr

namespace Scheme

def ofName (name : List Char) : Scheme :=
  match String.ofList name with
  | "http" => .special 80
  | "https" => .special 443
  | "ws" => .special 80
  | "wss" => .special 443
  | "ftp" => .special 21
  | "file" => .file
  | _ => .other

def isNameChar (c : Char) : Bool :=
  c.isAlphanum || c == '+' || c == '-' || c == '.'

/-- The scheme and what follows its colon. -/
def split? (url : List Char) : Option (Scheme × List Char) :=
  match url with
  | [] => none
  | c :: _ =>
    if c.isAlpha then
      match url.dropWhile isNameChar with
      | ':' :: rest => some (ofName ((url.takeWhile isNameChar).map Char.toLower), rest)
      | _ => none
    else none

def isSpecial : Scheme → Bool
  | .other => false
  | _ => true

def ownPort? : Scheme → Option Nat
  | .special port => some port
  | _ => none

end Scheme

/-- The character ends the authority; a backslash does so where it stands for a slash. -/
def endsAuthority (scheme : Scheme) (c : Char) : Bool :=
  c == '/' || c == '?' || c == '#' || (scheme.isSpecial && c == '\\')

/-- What follows the last at sign; there may be credentials before it. -/
def withoutCredentials (authority : List Char) : List Char :=
  ((fields '@' authority).getLast?).getD []

/-- Host and port text, parted at the first colon outside brackets. -/
def splitAtPort (inBrackets : Bool) : List Char → List Char × Option (List Char)
  | [] => ([], none)
  | c :: rest =>
    if c == ':' && !inBrackets then ([], some rest)
    else
      let inside := if c == '[' then true else if c == ']' then false else inBrackets
      let r := splitAtPort inside rest
      (c :: r.1, r.2)

/-- A port of at most sixteen bits; no digits at all are no port. The text may go on with a backslash. -/
def port? (text : List Char) : Option (Option Nat) :=
  let digits := text.takeWhile Char.isDigit
  let number := digits.foldl (fun n c => 10 * n + (c.toNat - 48)) 0
  let ended := match text.dropWhile Char.isDigit with
    | [] => true
    | c :: _ => c == '\\'
  if number < 65536 && ended then some (if digits.isEmpty then none else some number) else none

def hostOf? (scheme : Scheme) (text : List Char) : Option Host :=
  if text.isEmpty then none
  else if scheme.isSpecial then Host.parse? text else Host.parseOpaque? text

def authorityText (host : Host) (port : Option Nat) : List Char :=
  match port with
  | some n => host.text ++ [':'] ++ Nat.toDigits 10 n
  | none => host.text

/-- The authority after the slashes in front of it. -/
def afterSlashes? (scheme : Scheme) (rest : List Char) : Option (List Char) :=
  let authority := rest.takeWhile fun c => !endsAuthority scheme c
  let parts := splitAtPort false (withoutCredentials authority)
  (hostOf? scheme parts.1).bind fun host =>
    (port? (parts.2.getD [])).map fun port =>
      authorityText host (if port = scheme.ownPort? then none else port)

/-- A file has a host only between two slashes and its path, and the local host is none. A path that names a
drive takes the place of the host. The text is trimmed; what counts of it behind the scheme is `rest`. -/
def fileHost? (text rest : List Char) : Option (List Char) :=
  match rest with
  | a :: b :: rest =>
    if isSlash a && isSlash b then
      let name := rest.takeWhile fun c => !endsAuthority .file c
      let tail := rest.dropWhile fun c => !endsAuthority .file c
      let path := afterEssential ((essential text).length - tail.length + 1) text
      if isDriveLetter name then none
      else
        (hostOf? .file name).bind fun host =>
          if host = .domain "localhost".toList then none
          else if tail.head?.any isSlash && FilePath.namesDrive path then none
          else some host.text
    else none
  | _ => none

def authorityChars? (url : List Char) : Option (List Char) :=
  let text := trimmed url
  match Scheme.split? (essential text) with
  | none => none
  | some (.file, rest) => fileHost? text rest
  | some (.special port, rest) => afterSlashes? (.special port) (rest.dropWhile isSlash)
  | some (.other, rest) =>
    match rest with
    | '/' :: '/' :: rest => afterSlashes? .other rest
    | _ => none

/-- Host and port of an absolute URL, in their normal form. -/
def authority? (target : String) : Option String :=
  (authorityChars? target.toList).map String.ofList

end FramedHttp.Url
