import FramedHttp.Frame.Reply
import FramedHttp.Settings
import FramedHttp.Stream.Engine
import FramedHttp.Translate

/-!
# One stream

A stream turns the frames of one request into the callbacks that an engine expects: the request line, the
header fields, the end of the header section, body chunks and the end of the message. Frames move it from
stage to stage, and entering a stage makes a transition pending; dispatching performs the action of the
stage that was entered. A request whose line is incomplete is answered by the stream itself and does not
reach the engine.
-/

set_option autoImplicit false

namespace FramedHttp

structure Stream (ε : Type) where
  translator : Translator := {}
  replyVersion : Version := .http11
  state : Lifecycle := .initial
  /-- Metadata that waits to be translated. -/
  metadata : Option Headers := none
  /-- A stage was entered whose action has not run. -/
  pending : Bool := false
  /-- The request was refused by the stream itself. -/
  rejected : Bool := false
  /-- The callbacks attempted so far, the failed ones included. -/
  callbacks : List Callback := []
  seat : Seat ε

namespace Stream

variable {ε : Type}

def new (settings : Settings) (link : Link) (engine : ε) : Stream ε :=
  { translator := settings.toTranslator, replyVersion := settings.replyVersion,
    seat := { engine := engine, link := link } }

def buffer (s : Stream ε) : Content.Buffer := s.seat.buffer

def link (s : Stream ε) : Link := s.seat.link

def engine (s : Stream ε) : ε := s.seat.engine

def withBuffer (b : Content.Buffer) (s : Stream ε) : Stream ε :=
  { s with seat := { s.seat with buffer := b } }

def withLink (l : Link) (s : Stream ε) : Stream ε :=
  { s with seat := { s.seat with link := l } }

def withEngine (e : ε) (s : Stream ε) : Stream ε :=
  { s with seat := { s.seat with engine := e } }

def enter (state : Lifecycle) (s : Stream ε) : Stream ε :=
  { s with state := state, pending := true }

/-- A call out of turn changes nothing. -/
def refuse (operation : Refused) (s : Stream ε) : Outcome StreamError (Stream ε) :=
  (.error (.illegalState operation s.state), s)

section Actions

variable [Engine ε]

def invoke (cb : Callback) (s : Stream ε) : Outcome StreamError (Stream ε) :=
  let r := Engine.call cb { state := s.state, earlier := s.callbacks } s.seat
  Outcome.mapError .http (r.mapState fun seat => { s with callbacks := s.callbacks ++ [cb], seat := seat })

/-- One callback after the other, up to the first failure. -/
def invokeAll : List Callback → Stream ε → Outcome StreamError (Stream ε)
  | [], s => (.ok (), s)
  | cb :: rest, s => (s.invoke cb).andThen (invokeAll rest)

/-- The request line is read from the metadata, which stays for the header fields. -/
def startRequest (s : Stream ε) : Outcome StreamError (Stream ε) :=
  match s.metadata with
  | none => s.refuse .requestLineWithoutMetadata
  | some headers =>
    match RequestLine.ofHeaders headers with
    | .error e => (.error e, s)
    | .ok line => (s.invoke (.start line.method line.target line.version)).andThen fun s =>
        (.ok (), s.enter .headerFields)

def forwardFields (s : Stream ε) : Outcome StreamError (Stream ε) :=
  match s.metadata with
  | none => (.ok (), s)
  | some headers =>
    invokeAll ((s.translator.translate headers).map fun f => .field f.name f.value)
      { s with metadata := none }

def announceChunk (s : Stream ε) : Outcome StreamError (Stream ε) :=
  if s.buffer.isDrained then (.ok (), s) else s.invoke (.chunk s.buffer.fragment)

/-- The action of the stage that the stream is in. -/
def act (s : Stream ε) : Outcome StreamError (Stream ε) :=
  match s.state with
  | .initial => (.ok (), s)
  | .requestLine => s.startRequest
  | .headerFields => s.forwardFields
  | .headersComplete => s.invoke .headersComplete
  | .body => s.announceChunk
  | .final => s.invoke (.complete 0)

/-- Acts while a transition is pending, `n` times at most. -/
def dispatchUpTo : Nat → Stream ε → Outcome StreamError (Stream ε)
  | 0, s => (.ok (), s)
  | n + 1, s =>
    if s.pending then ({ s with pending := false }.act).andThen (dispatchUpTo n) else (.ok (), s)

/-- An action that makes another one pending has moved the stream to a later stage, so no more actions than
stages are needed. -/
def dispatch (s : Stream ε) : Outcome StreamError (Stream ε) :=
  dispatchUpTo Lifecycle.all.length s

/-- The stream answers by itself and is done: whatever still arrives is ignored. -/
def reject (e : StreamError) (s : Stream ε) : Outcome StreamError (Stream ε) :=
  let done : Stream ε :=
    { s with rejected := true, pending := false, metadata := none, state := .final,
             seat := { s.seat with buffer := s.seat.buffer.markComplete } }
  (done.link.sendReply (replyHeaders (.ofStatus e.status) s.replyVersion) true).mapState done.withLink

def run (s : Stream ε) : Outcome StreamError (Stream ε) :=
  match s.dispatch with
  | (.error (.malformedRequest what), s) => s.reject (.malformedRequest what)
  | r => r

/-- A rejected stream takes every frame and does nothing. -/
def unlessRejected (s : Stream ε) (next : Stream ε → Outcome StreamError (Stream ε)) :
    Outcome StreamError (Stream ε) :=
  if s.rejected then (.ok (), s) else next s

/-- The first metadata that is not empty carries the request line; more of it continues the header section. -/
def onMetadata (headers : Headers) (s : Stream ε) : Outcome StreamError (Stream ε) :=
  s.unlessRejected fun s =>
    match s.state with
    | .initial =>
      if headers.isEmpty then (.ok (), s)
      else ({ s with metadata := some headers }.enter .requestLine).run
    | .requestLine | .headerFields => ({ s with metadata := some headers }.enter .headerFields).run
    | _ => s.refuse .metadataAfterHeaders

def onHeadersEnd (s : Stream ε) : Outcome StreamError (Stream ε) :=
  s.unlessRejected fun s =>
    match s.state with
    | .initial => s.refuse .headersEndBeforeRequestLine
    | .requestLine | .headerFields => (s.enter .headersComplete).run
    | _ => (.ok (), s)

/-- Body octets are taken while the stream reads and nothing is left unread. -/
def takeBody (data : Octets) (last : Bool) (s : Stream ε) : Outcome StreamError (Stream ε) :=
  if s.state.isReading then
    match s.buffer.fill data last with
    | .ok b => ((s.withBuffer b).enter .body).run
    | .error _ => s.refuse .bodyFrameOnUnread
  else s.refuse .bodyFrame

/-- A body frame also ends the header section. -/
def onBody (data : Octets) (last : Bool) (s : Stream ε) : Outcome StreamError (Stream ε) :=
  s.unlessRejected fun s =>
    s.onHeadersEnd.andThen fun s => s.unlessRejected (takeBody data last)

def takeEnd (s : Stream ε) : Outcome StreamError (Stream ε) :=
  ((s.withBuffer s.buffer.markComplete).enter .final).run

/-- The end of the stream also ends the header section and the body. -/
def onEnd (s : Stream ε) : Outcome StreamError (Stream ε) :=
  s.unlessRejected fun s =>
    match s.state with
    | .final => (.ok (), s)
    | .initial | .requestLine => s.refuse .endBeforeRequestLine
    | _ => s.onHeadersEnd.andThen fun s => s.unlessRejected takeEnd

def receive (frame : InFrame) (s : Stream ε) : Outcome StreamError (Stream ε) :=
  match frame with
  | .metadata headers => s.onMetadata headers
  | .headersEnd => s.onHeadersEnd
  | .body data last => s.onBody data last
  | .streamEnd => s.onEnd

end Actions

end Stream

end FramedHttp
