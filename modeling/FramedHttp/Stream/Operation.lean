import FramedHttp.Stream.Session

/-!
# Uses of a session

Everything that can be done to a stream in its session, from both sides: frames are delivered or queued,
and the body is awaited, consumed, given up or read. `run` is the session after a list of uses, whatever
each of them answered.
-/

set_option autoImplicit false

namespace FramedHttp

open Content

inductive SessionOp where
  | receive (frame : InFrame)
  | dispatch
  | enqueue (frames : List InFrame)
  | pump
  | availableNow
  | block (maxIdle : Duration)
  | consume (n : Nat)
  | discard
  | body (maxIdle : Duration) (op : BodyOp)
  deriving DecidableEq, Repr

inductive SessionResult where
  | done
  | count (n : Nat)
  | content (octets : Option Octets)
  | body (answer : BodyAnswer)
  | failed (error : StreamError)
  | bodyFailed (error : EngineError)
  deriving DecidableEq, Repr

namespace SessionResult

def ofOutcome : Except StreamError Unit → SessionResult
  | .ok _ => .done
  | .error e => .failed e

def ofCount : Except StreamError Nat → SessionResult
  | .ok n => .count n
  | .error e => .failed e

def ofContent : Except StreamError (Option Octets) → SessionResult
  | .ok octets => .content octets
  | .error e => .failed e

def ofBody : Except EngineError BodyAnswer → SessionResult
  | .ok answer => .body answer
  | .error e => .bodyFailed e

/-- The same result as the engine's side sees it. -/
def toEngine : SessionResult → SessionResult
  | .failed e => .bodyFailed e.toEngine
  | r => r

end SessionResult

namespace Session

variable {ε : Type} [Engine ε]

def told (r : Outcome StreamError (Session ε)) : SessionResult × Session ε :=
  (.ofOutcome r.1, r.2)

def perform (op : SessionOp) (s : Session ε) : SessionResult × Session ε :=
  match op with
  | .receive frame => told ((s.stream.receive frame).mapState fun stream => s.withStream stream)
  | .dispatch => told (s.stream.dispatch.mapState fun stream => s.withStream stream)
  | .enqueue frames => (.done, s.enqueue frames)
  | .pump => told s.pump
  | .availableNow => (.ofCount s.availableNow, s)
  | .block maxIdle => let r := s.block maxIdle; (.ofContent r.1, r.2)
  | .consume n => told (s.consume n)
  | .discard => told s.discard
  | .body maxIdle op => let r := op.perform maxIdle s; (.ofBody r.1, r.2)

def run : List SessionOp → Session ε → Session ε
  | [], s => s
  | op :: ops, s => run ops (s.perform op).2

end Session

end FramedHttp
