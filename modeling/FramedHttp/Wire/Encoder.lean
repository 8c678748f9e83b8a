import FramedHttp.Response.Generator
import FramedHttp.Wire.Chunk

/-!
# Responses on a byte stream

The sink that writes a response as HTTP/1.1. The framing of the body is chosen once, with the headers: by
a length that the application gave, by the length of a body that is complete at that point, or in chunks.
The choice stands even when writing the head fails.
-/

set_option autoImplicit false

namespace FramedHttp

inductive Framing where
  | pending
  /-- The octets of the body as they are. -/
  | identity
  | chunked
  | done
  deriving DecidableEq, Repr

namespace Framing

def contentLength : String := "Content-Length"

def transferEncoding : String := "Transfer-Encoding"

/-- How the body goes out, and the header fields that say so. -/
def choose (head : ResponseHead) (buffered : Octets) (last : Bool) : Framing × Headers :=
  if head.headers.contains contentLength || head.status.isBodiless then (.identity, head.headers)
  else if last then
    (.identity, head.headers.set contentLength (toString buffered.length))
  else (.chunked, head.headers.set transferEncoding "chunked")

def fieldLine (f : Field) : Octets :=
  Octets.ofText f.name ++ Octets.ofText ": " ++ Octets.ofText f.value ++ Octets.crlf

/-- Status line, field lines and the empty line. -/
def headOctets (head : ResponseHead) (headers : Headers) : Octets :=
  Octets.ofText head.version.name ++ Octets.ofText " " ++ Octets.ofText head.statusLine ++ Octets.crlf
    ++ headers.fields.flatMap fieldLine ++ Octets.crlf

def writeBody (data : Octets) : Framing × Writer → Outcome EngineError (Framing × Writer)
  | (.identity, w) => (w.put data).mapState (.identity, ·)
  | (.chunked, w) => (Chunk.write data w).mapState (.chunked, ·)
  | s => (.error (.illegalState .bodyOutsideResponse), s)

/-- The end is reached only when it could be written: until then it can be tried again. -/
def finish : Framing × Writer → Outcome EngineError (Framing × Writer)
  | (.chunked, w) => ((Chunk.writeLast w).mapState (.chunked, ·)).andThen fun s => (.ok (), .done, s.2)
  | (.identity, w) => (w.flush.mapState (.identity, ·)).andThen fun s => (.ok (), .done, s.2)
  | s => (.ok (), s)

def body (chunk : Octets) (last : Bool) (s : Framing × Writer) : Outcome EngineError (Framing × Writer) :=
  (writeBody chunk s).andThen fun s => if last then finish s else (.ok (), s)

def headers (head : ResponseHead) (buffered : Octets) (last : Bool) :
    Framing × Writer → Outcome EngineError (Framing × Writer)
  | (.pending, w) =>
    let chosen := choose head buffered last
    ((w.put (headOctets head chosen.2)).mapState (chosen.1, ·)).andThen (body buffered last)
  | s => (.error (.illegalState .headersAlreadyWritten), s)

def informational (status : Status) : Framing × Writer → Outcome EngineError (Framing × Writer)
  | (framing, w) =>
    ((w.put (headOctets (.ofStatus status) .empty)).andThen (·.flush)).mapState (framing, ·)

def raw (octets : Octets) : Framing × Writer → Outcome EngineError (Framing × Writer)
  | (framing, w) => (w.put octets).mapState (framing, ·)

def emit : Emission → Framing × Writer → Outcome EngineError (Framing × Writer)
  | .headers head buffered last, s => headers head buffered last s
  | .body chunk last, s => body chunk last s
  | .finish, s => finish s
  | .informational status, s => informational status s
  | .raw octets, s => raw octets s

instance : Sink (Framing × Writer) where
  emit := emit

end Framing

end FramedHttp
