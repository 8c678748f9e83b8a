/-!
# Request targets

A target is read in origin form: path, then perhaps a question mark and a query. A target that names a
scheme and an authority is first cut down to what follows them.
-/

set_option autoImplicit false

namespace FramedHttp.Target

/-- What follows the first "://". -/
def afterScheme : List Char → Option (List Char)
  | [] => none
  | c :: rest =>
    match c, rest with
    | ':', '/' :: '/' :: tail => some tail
    | _, _ => afterScheme rest

def endsAuthority (c : Char) : Bool :=
  c == '/' || c == '?'

def originForm (target : List Char) : List Char :=
  match afterScheme target with
  | none => target
  | some rest =>
    match rest.dropWhile (fun c => !endsAuthority c) with
    | [] => ['/']
    | origin => origin

def path (target : List Char) : List Char :=
  (originForm target).takeWhile (· != '?')

def query? (target : List Char) : Option (List Char) :=
  match (originForm target).dropWhile (· != '?') with
  | [] => none
  | _ :: query => some query

end FramedHttp.Target
