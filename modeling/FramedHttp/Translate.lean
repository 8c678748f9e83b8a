import FramedHttp.Error
import FramedHttp.Headers
import FramedHttp.Url.Authority

/-!
# From metadata to a request

The metadata of a stream holds the request line in fields of its own, beside the header fields. The request
line needs all three of its fields. Of the others, those that belong to a single connection are dropped,
and the host is told by the target alone.
-/

set_option autoImplicit false

namespace FramedHttp

structure RequestLine where
  method : String
  target : String
  version : String
  deriving DecidableEq, Repr

namespace RequestLine

def field (h : Headers) (name : String) : Except StreamError String :=
  match h.get? name with
  | some value => .ok value
  | none => .error (.malformedRequest ("missing '" ++ name ++ "' field"))

def ofHeaders (h : Headers) : Except StreamError RequestLine := do
  let method ← field h "method"
  let target ← field h "url"
  let version ← field h "version"
  return { method, target, version }

end RequestLine

/-- What becomes of a metadata field. -/
inductive Disposition where
  | drop
  | target
  | forward
  deriving DecidableEq, Repr

namespace Disposition

def dropped : List String :=
  ["method", "version", "connection", "keep-alive", "host"]

def ofName (name : String) : Disposition :=
  if dropped.any (sameName name) then .drop
  else if sameName name "url" then .target
  else .forward

end Disposition

/-- How the header fields of a request are made of metadata. What reads a host off a target is a parameter, and
nothing but its answers counts; it is `Url.authority?` unless another is given. -/
structure Translator where
  /-- Derive a host field from an absolute request target. -/
  synthesizeHost : Bool := true
  /-- The host that a target names, with its port, if it names one. -/
  host? : String → Option String := Url.authority?

namespace Translator

/-- The header field, if any, that a metadata field turns into. -/
def translateField (t : Translator) (f : Field) : Option Field :=
  match Disposition.ofName f.name with
  | .drop => none
  | .target =>
    if t.synthesizeHost then (t.host? f.value).map fun host => ⟨"host", host⟩ else none
  | .forward => some f

def translate (t : Translator) (h : Headers) : List Field :=
  h.fields.filterMap t.translateField

end Translator

end FramedHttp
