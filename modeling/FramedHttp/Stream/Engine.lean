import FramedHttp.Content.Buffer
import FramedHttp.Frame.Link
import FramedHttp.Lifecycle

/-!
# Request engines

What a stream tells a sequential request engine, and what the engine may do while it is told: change
itself, consume unread body octets and send frames. The stage of the stream is out of its reach.
-/

set_option autoImplicit false

namespace FramedHttp

inductive Callback where
  | start (method target version : String)
  | field (name value : String)
  | headersComplete
  | chunk (octets : Octets)
  | complete (hint : Nat)
  deriving DecidableEq, Repr

/-- What an engine can touch during a callback: itself, the unread body and the link. -/
structure Seat (ε : Type) where
  engine : ε
  buffer : Content.Buffer := {}
  link : Link := {}

/-- When a callback comes: the stage of the stream, and the callbacks attempted before. -/
structure Occasion where
  state : Lifecycle
  earlier : List Callback := []

class Engine (ε : Type) where
  call : Callback → Occasion → Seat ε → Outcome EngineError (Seat ε)

inductive CallbackKind where
  | start
  | field
  | headersComplete
  | chunk
  | complete
  deriving DecidableEq, Repr

def Callback.kind : Callback → CallbackKind
  | .start .. => .start
  | .field .. => .field
  | .headersComplete => .headersComplete
  | .chunk _ => .chunk
  | .complete _ => .complete

/-- An engine that fails where its faults say and may read every chunk as soon as it is told of it. -/
structure Recorder where
  faults : List (Fault CallbackKind EngineError) := []
  consumes : Bool := false
  deriving Repr

namespace Recorder

/-- What is left unread after a callback. -/
def leave (r : Recorder) (cb : Callback) (b : Content.Buffer) : Content.Buffer :=
  match cb with
  | .chunk octets => if r.consumes then b.consume octets.length else b
  | _ => b

def call (cb : Callback) (occasion : Occasion) (s : Seat Recorder) : Outcome EngineError (Seat Recorder) :=
  let left := { s with buffer := s.engine.leave cb s.buffer }
  let nth := occasion.earlier.countP fun c => c.kind = cb.kind
  match faultAt s.engine.faults cb.kind nth with
  | some e => (.error e, left)
  | none => (.ok (), left)

instance : Engine Recorder where
  call := call

end Recorder

end FramedHttp
