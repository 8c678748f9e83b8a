import FramedHttp.Headers
import FramedHttp.Message.Method
import FramedHttp.Message.Status
import FramedHttp.Message.Target

/-!
# Message heads

A request head is a request line with header fields; a response head is what a response commits to
before its body: version, status, perhaps a reason in place of the usual one, and header fields.
-/

set_option autoImplicit false

namespace FramedHttp

structure RequestHead where
  method : Method
  target : String
  version : Version
  headers : Headers := .empty
  deriving DecidableEq, Repr

namespace RequestHead

/-- A wrong method is reported before a wrong version. -/
def ofRequestLine (method target version : String) : Except EngineError RequestHead :=
  match Method.ofText method with
  | .error e => .error e
  | .ok m =>
    match Version.ofText version with
    | .error e => .error e
    | .ok v => .ok { method := m, target := target, version := v }

def path (h : RequestHead) : String :=
  String.ofList (Target.path h.target.toList)

def query? (h : RequestHead) : Option String :=
  (Target.query? h.target.toList).map String.ofList

def withField (h : RequestHead) (name value : String) : RequestHead :=
  { h with headers := h.headers.append name value }

end RequestHead

structure ResponseHead where
  version : Version := .http11
  status : Status := .ok
  reason? : Option String := none
  headers : Headers := .empty
  deriving DecidableEq, Repr

namespace ResponseHead

def ofStatus (status : Status) : ResponseHead :=
  { status := status }

def reason (h : ResponseHead) : String :=
  h.reason?.getD h.status.reason

/-- Code and reason; an empty reason leaves the bare code. -/
def statusLine (h : ResponseHead) : String :=
  if h.reason.isEmpty then toString h.status.code
  else toString h.status.code ++ " " ++ h.reason

end ResponseHead

end FramedHttp
