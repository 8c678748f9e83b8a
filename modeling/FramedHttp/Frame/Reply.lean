import FramedHttp.Frame.Link
import FramedHttp.Response.Generator

/-!
# Responses in frames

The sink that sends a response as one reply frame and data frames. The reply closes the stream when no
body octets are known at the commit; otherwise they follow at once. Interim responses and raw octets have
no frame of their own.
-/

set_option autoImplicit false

namespace FramedHttp

/-- The header fields of a reply: status and version, then those of the head, each name once. -/
def replyHeaders (head : ResponseHead) (version : Version) : Headers :=
  head.headers.fields.foldl (fun h f => h.set f.name f.value)
    (Headers.ofPairs [("status", head.statusLine), ("version", version.name)])

structure ReplyState where
  version : Version
  replied : Bool := false
  /-- The last frame sent has the close mark. -/
  closed : Bool := false
  deriving DecidableEq, Repr

namespace ReplyState

def data (octets : Octets) (close : Bool) :
    ReplyState × Link → Outcome EngineError (ReplyState × Link)
  | (s, l) =>
    match l.sendData octets close with
    | (.ok _, l) => (.ok (), { s with closed := close }, l)
    | (.error e, l) => (.error e.toEngine, s, l)

def headers (head : ResponseHead) (buffered : Octets) (last : Bool) :
    ReplyState × Link → Outcome EngineError (ReplyState × Link)
  | (s, l) =>
    if s.replied then (.error (StreamError.illegalState .secondReply .final).toEngine, s, l)
    else
      match l.sendReply (replyHeaders head s.version) buffered.isEmpty with
      | (.error e, l) => (.error e.toEngine, s, l)
      | (.ok _, l) =>
        let s := { s with replied := true, closed := buffered.isEmpty }
        if buffered.isEmpty then (.ok (), s, l) else data buffered last (s, l)

def body (chunk : Octets) (last : Bool) :
    ReplyState × Link → Outcome EngineError (ReplyState × Link)
  | (s, l) =>
    if !s.replied || s.closed then (.error (.illegalState (.noOpenReply l.stream)), s, l)
    else if chunk.isEmpty && !last then (.ok (), s, l)
    else data chunk last (s, l)

def finish : ReplyState × Link → Outcome EngineError (ReplyState × Link)
  | (s, l) => if s.replied && !s.closed then data [] true (s, l) else (.ok (), s, l)

def emit : Emission → ReplyState × Link → Outcome EngineError (ReplyState × Link)
  | .headers head buffered last, s => headers head buffered last s
  | .body chunk last, s => body chunk last s
  | .finish, s => finish s
  | .informational _, s => (.error .noInformational, s)
  | .raw _, s => (.error .noRawBytes, s)

instance : Sink (ReplyState × Link) where
  emit := emit
  interruptions s := s.2.faults.length

end ReplyState

end FramedHttp
