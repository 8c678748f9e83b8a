import FramedHttp.Error

/-!
# Methods and versions

The methods and protocol versions that a request line may name, each with the one spelling it is read from.
-/

set_option autoImplicit false

namespace FramedHttp

inductive Method where
  | get
  | head
  | post
  | put
  | delete
  | connect
  | options
  | trace
  | patch
  deriving DecidableEq, Repr

namespace Method

def all : List Method :=
  [.get, .head, .post, .put, .delete, .connect, .options, .trace, .patch]

def name : Method → String
  | .get => "GET"
  | .head => "HEAD"
  | .post => "POST"
  | .put => "PUT"
  | .delete => "DELETE"
  | .connect => "CONNECT"
  | .options => "OPTIONS"
  | .trace => "TRACE"
  | .patch => "PATCH"

def ofText (text : String) : Except EngineError Method :=
  match all.find? (fun m => m.name == text) with
  | some m => .ok m
  | none => .error (.invalidMethod text)

theorem ofText_name (m : Method) : ofText m.name = .ok m := by
  cases m <;> rfl

def allowsResponseBody : Method → Bool
  | .head => false
  | _ => true

end Method

inductive Version where
  | http10
  | http11
  deriving DecidableEq, Repr

namespace Version

def all : List Version := [.http10, .http11]

def name : Version → String
  | .http10 => "HTTP/1.0"
  | .http11 => "HTTP/1.1"

def ofText (text : String) : Except EngineError Version :=
  match all.find? (fun v => v.name == text) with
  | some v => .ok v
  | none => .error (.invalidVersion text)

theorem ofText_name (v : Version) : ofText v.name = .ok v := by
  cases v <;> rfl

end Version

end FramedHttp
