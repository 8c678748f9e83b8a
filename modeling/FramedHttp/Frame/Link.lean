import FramedHttp.Fault
import FramedHttp.Error
import FramedHttp.Headers
import FramedHttp.Octets
import FramedHttp.Outcome

/-!
# The link to the session

Everything that one stream sends goes over its link as a frame: one reply with header fields, then data.
The close mark says that no frame follows. The link keeps the frames that were sent, counts every call
made on it, and fails where its faults say; a send that fails puts no frame on the link.
-/

set_option autoImplicit false

namespace FramedHttp

/-- A frame from the peer. -/
inductive InFrame where
  | metadata (headers : Headers)
  | headersEnd
  | body (data : Octets) (last : Bool)
  | streamEnd
  deriving DecidableEq, Repr

/-- A frame to the peer. -/
inductive OutFrame where
  | reply (headers : Headers) (close : Bool)
  | data (octets : Octets) (close : Bool)
  deriving DecidableEq, Repr

def OutFrame.closes : OutFrame → Bool
  | .reply _ close => close
  | .data _ close => close

inductive LinkCall where
  | reply
  | data
  | pull
  | terminate
  deriving DecidableEq, Repr

structure Link where
  stream : Nat := 1
  faults : List (Fault LinkCall StreamError) := []
  sent : List OutFrame := []
  /-- Calls so far, the failed ones included. -/
  replies : Nat := 0
  dataFrames : Nat := 0
  pulls : Nat := 0
  terminations : Nat := 0
  deriving Repr

namespace Link

/-- The outcome of the next call of a kind. -/
def outcome (l : Link) (call : LinkCall) (n : Nat) : Except StreamError Unit :=
  match faultAt l.faults call n with
  | some e => .error e
  | none => .ok ()

def deliver (frame : OutFrame) (result : Except StreamError Unit) (l : Link) : Link :=
  match result with
  | .ok _ => { l with sent := l.sent ++ [frame] }
  | .error _ => l

def sendReply (headers : Headers) (close : Bool) (l : Link) : Outcome StreamError Link :=
  let result := l.outcome .reply l.replies
  (result, deliver (.reply headers close) result { l with replies := l.replies + 1 })

def sendData (octets : Octets) (close : Bool) (l : Link) : Outcome StreamError Link :=
  let result := l.outcome .data l.dataFrames
  (result, deliver (.data octets close) result { l with dataFrames := l.dataFrames + 1 })

/-- Ask for frames. What then arrives is the session's business. -/
def pull (l : Link) : Outcome StreamError Link :=
  (l.outcome .pull l.pulls, { l with pulls := l.pulls + 1 })

/-- Ask the whole session to stop. -/
def terminate (l : Link) : Outcome StreamError Link :=
  (l.outcome .terminate l.terminations, { l with terminations := l.terminations + 1 })

end Link

end FramedHttp
