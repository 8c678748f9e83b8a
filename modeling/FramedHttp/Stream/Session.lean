import FramedHttp.Content.Body
import FramedHttp.Stream.Basic

/-!
# A stream in its session

Frames of the peer queue up in an inbox and are delivered to the stream in order. Under back-pressure a
body frame is held back while body octets are unread. A reader of the body that finds nothing pulls once,
which delivers what can be delivered, and then waits; a wait that expires terminates the whole session.
-/

set_option autoImplicit false

namespace FramedHttp

open Content

structure Session (ε : Type) where
  stream : Stream ε
  inbox : List InFrame := []
  /-- Body frames are held back while body octets are unread. -/
  pressure : Bool := true
  /-- The errors with which deliveries from the inbox failed. -/
  failures : List StreamError := []

namespace Session

variable {ε : Type}

def link (s : Session ε) : Link := s.stream.link

def buffer (s : Session ε) : Buffer := s.stream.buffer

def withStream (stream : Stream ε) (s : Session ε) : Session ε :=
  { s with stream := stream }

def withLink (l : Link) (s : Session ε) : Session ε :=
  s.withStream (s.stream.withLink l)

def withBuffer (b : Buffer) (s : Session ε) : Session ε :=
  s.withStream (s.stream.withBuffer b)

def enqueue (frames : List InFrame) (s : Session ε) : Session ε :=
  { s with inbox := s.inbox ++ frames }

/-- The frame has to wait. -/
def holds (pressure : Bool) (frame : InFrame) (stream : Stream ε) : Bool :=
  match frame with
  | .body .. => pressure && !stream.buffer.isDrained
  | _ => false

section Delivery

variable [Engine ε]

/-- Delivers from the front until a frame has to wait or its delivery fails; that frame is gone. -/
def pumpFrames (pressure : Bool) : List InFrame → Stream ε → Outcome StreamError (Stream ε × List InFrame)
  | [], stream => (.ok (), stream, [])
  | frame :: rest, stream =>
    if holds pressure frame stream then (.ok (), stream, frame :: rest)
    else
      match stream.receive frame with
      | (.ok _, stream) => pumpFrames pressure rest stream
      | (.error e, stream) => (.error e, stream, rest)

/-- The session after deliveries: what is left of the inbox, and the failure if there was one. -/
def afterDelivery (r : Outcome StreamError (Stream ε × List InFrame)) (s : Session ε) :
    Outcome StreamError (Session ε) :=
  let after := { s with stream := r.2.1, inbox := r.2.2 }
  match r.1 with
  | .ok _ => (.ok (), after)
  | .error e => (.error e, { after with failures := after.failures ++ [e] })

def pump (s : Session ε) : Outcome StreamError (Session ε) :=
  s.afterDelivery (pumpFrames s.pressure s.inbox s.stream)

/-- Delivers the first frame, if there is one that need not wait. -/
def deliverNext (s : Session ε) : Option (Outcome StreamError (Session ε)) :=
  match s.inbox with
  | [] => none
  | frame :: rest =>
    if holds s.pressure frame s.stream then none
    else some (s.afterDelivery ((s.stream.receive frame).mapState (·, rest)))

def pull (s : Session ε) : Outcome StreamError (Session ε) :=
  (s.link.pull.mapState fun l => s.withLink l).andThen pump

end Delivery

/-- What a reader finds without pulling. Nothing may be awaited before the header section has ended. -/
def look (s : Session ε) : Await StreamError :=
  if s.stream.state.canBlock then
    if s.buffer.isDrained then
      if s.buffer.complete then .ended else .waiting
    else .content s.buffer.fragment
  else .failed (.illegalState .blockUntilContent s.stream.state)

def availableNow (s : Session ε) : Except StreamError Nat :=
  if s.stream.state.isReading then .ok s.buffer.fragment.length
  else .error (.illegalState .availableNow s.stream.state)

def consume (n : Nat) (s : Session ε) : Outcome StreamError (Session ε) :=
  match s.buffer.release? n with
  | some b => (.ok (), s.withBuffer b)
  | none => (.error (.illegalState .consumeBeyondBuffered s.stream.state), s)

/-- A stalled stream is taken for a broken session. -/
def expire (maxIdle : Duration) (s : Session ε) : StreamError × Session ε :=
  (.readTimeout maxIdle, s.withLink s.link.terminate.2)

section Reading

variable [Engine ε]

/-- Looks, and when nothing is there, pulls and looks once more. A reader that waits has pulled already. -/
def await (waits : Bool) (s : Session ε) : Await StreamError × Session ε :=
  match s.look with
  | .waiting =>
    if waits then (.waiting, s)
    else
      match s.pull with
      | (.error e, s) => (.failed e, s)
      | (.ok _, s) => (s.look, s)
  | found => (found, s)

/-- The answer of a blocking wait; one that found nothing in the end has expired. -/
def settle (maxIdle : Duration) :
    Await StreamError × Session ε → Except StreamError (Option Octets) × Session ε
  | (.content octets, s) => (.ok (some octets), s)
  | (.ended, s) => (.ok none, s)
  | (.failed e, s) => (.error e, s)
  | (.waiting, s) => (.error (s.expire maxIdle).1, (s.expire maxIdle).2)

/-- One blocking wait, with what arrives while it waits. -/
def blockDuring (arrive : Session ε → Session ε) (maxIdle : Duration) (s : Session ε) :
    Except StreamError (Option Octets) × Session ε :=
  match s.await false with
  | (.waiting, s) => settle maxIdle ((arrive s).look, arrive s)
  | found => settle maxIdle found

/-- A blocking wait during which nothing arrives. -/
def block (maxIdle : Duration) (s : Session ε) : Except StreamError (Option Octets) × Session ε :=
  s.blockDuring id maxIdle

/-- Nobody reads the body any more. Frames held back so far are let in. -/
def discard (s : Session ε) : Outcome StreamError (Session ε) :=
  let given := s.withBuffer s.buffer.discard
  if given.buffer.isExhausted then (.ok (), given) else given.pull

instance : Source (Session ε) where
  available s := s.availableNow.mapError StreamError.toEngine
  await waits s :=
    let x := s.await waits
    (x.1.mapError StreamError.toEngine, x.2)
  expire maxIdle s :=
    let x := s.expire maxIdle
    (x.1.toEngine, x.2)
  consume n s := (s.consume n).mapError StreamError.toEngine
  discard s := s.discard.mapError StreamError.toEngine
  reads s := s.inbox.length + s.link.faults.length + 2

end Reading

end Session

end FramedHttp
