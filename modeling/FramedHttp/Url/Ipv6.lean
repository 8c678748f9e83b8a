import FramedHttp.Url.Fields
import FramedHttp.Url.Ipv4

/-!
# IPv6 addresses in a host

Eight groups of sixteen bits. At one place a double colon may stand for one or more groups of zero, and the
last two groups may be written as an IPv4 address. The text of an address puts the double colon in place
of the first longest run of two or more zero groups.
-/

set_option autoImplicit false

namespace FramedHttp.Url.Ipv6

/-- Text before and after the first double colon. -/
def splitAtGap : List Char → Option (List Char × List Char)
  | [] => none
  | c :: rest =>
    match c, rest with
    | ':', ':' :: tail => some ([], tail)
    | _, _ => (splitAtGap rest).map fun x => (c :: x.1, x.2)

def group? (text : List Char) : Option Nat :=
  if text.isEmpty || 4 < text.length then none else Ipv4.digits 16 text

def isDecimalOctet (text : List Char) : Bool :=
  match text with
  | [] => false
  | '0' :: _ :: _ => false
  | _ => text.length ≤ 3 && text.all Char.isDigit

def decimalOctet? (text : List Char) : Option Nat :=
  if isDecimalOctet text then
    (Ipv4.digits 10 text).bind fun n => if n < 256 then some n else none
  else none

/-- Four decimal octets, as two groups. -/
def dotted? (text : List Char) : Option (List Nat) :=
  match (fields '.' text).mapM decimalOctet? with
  | some [a, b, c, d] => some [256 * a + b, 256 * c + d]
  | _ => none

/-- Groups between colons; only the last field of the address may be dotted. -/
def groups? (mayEndDotted : Bool) : List (List Char) → Option (List Nat)
  | [] => some []
  | [last] =>
    if mayEndDotted && last.contains '.' then dotted? last else (group? last).map fun n => [n]
  | field :: rest => (group? field).bind fun n => (groups? mayEndDotted rest).map (n :: ·)

def side? (mayEndDotted : Bool) (text : List Char) : Option (List Nat) :=
  if text.isEmpty then some [] else groups? mayEndDotted (fields ':' text)

def parse? (text : List Char) : Option (List Nat) :=
  match splitAtGap text with
  | none => (groups? true (fields ':' text)).bind fun gs => if gs.length = 8 then some gs else none
  | some (before, after) =>
    (side? false before).bind fun front =>
      (side? true after).bind fun back =>
        if front.length + back.length ≤ 7 then
          some (front ++ List.replicate (8 - front.length - back.length) 0 ++ back)
        else none

/-- The length of the run of zeros at the front. -/
def zeros : List Nat → Nat
  | 0 :: rest => zeros rest + 1
  | _ => 0

/-- The first longest run of zeros: where it starts and how long it is. -/
def longestRun (groups : List Nat) : Nat × Nat :=
  (List.range groups.length).foldl
    (fun best i => let n := zeros (groups.drop i); if best.2 < n then (i, n) else best) (0, 0)

def groupsText (groups : List Nat) : List Char :=
  joinWith [':'] (groups.map (Nat.toDigits 16))

def text (groups : List Nat) : List Char :=
  let run := longestRun groups
  if run.2 < 2 then groupsText groups
  else groupsText (groups.take run.1) ++ [':', ':'] ++ groupsText (groups.drop (run.1 + run.2))

end FramedHttp.Url.Ipv6
