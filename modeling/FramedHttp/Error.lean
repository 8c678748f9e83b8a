import FramedHttp.Duration
import FramedHttp.Lifecycle

/-!
# Errors

Two kinds of failure cross the boundary between a multiplexed stream and a sequential request engine.
`EngineError` is what the engine and everything on its side reports; `StreamError` is what the stream
side reports. Each is a cause, and `message` is the only place with its wording. `StreamError.toEngine`
is how a failure of the stream looks to a reader or writer on the engine's side.
-/

set_option autoImplicit false

namespace FramedHttp

inductive IoKind where
  | notFound
  | permissionDenied
  | connectionRefused
  | connectionReset
  | connectionAborted
  | notConnected
  | addrInUse
  | addrNotAvailable
  | brokenPipe
  | alreadyExists
  | wouldBlock
  | invalidInput
  | invalidData
  | timedOut
  | writeZero
  | interrupted
  | unsupported
  | unexpectedEof
  | outOfMemory
  | other
  deriving DecidableEq, Repr

namespace IoKind

def all : List IoKind :=
  [.notFound, .permissionDenied, .connectionRefused, .connectionReset, .connectionAborted, .notConnected,
    .addrInUse, .addrNotAvailable, .brokenPipe, .alreadyExists, .wouldBlock, .invalidInput, .invalidData,
    .timedOut, .writeZero, .interrupted, .unsupported, .unexpectedEof, .outOfMemory, .other]

def name : IoKind → String
  | .notFound => "NotFound"
  | .permissionDenied => "PermissionDenied"
  | .connectionRefused => "ConnectionRefused"
  | .connectionReset => "ConnectionReset"
  | .connectionAborted => "ConnectionAborted"
  | .notConnected => "NotConnected"
  | .addrInUse => "AddrInUse"
  | .addrNotAvailable => "AddrNotAvailable"
  | .brokenPipe => "BrokenPipe"
  | .alreadyExists => "AlreadyExists"
  | .wouldBlock => "WouldBlock"
  | .invalidInput => "InvalidInput"
  | .invalidData => "InvalidData"
  | .timedOut => "TimedOut"
  | .writeZero => "WriteZero"
  | .interrupted => "Interrupted"
  | .unsupported => "Unsupported"
  | .unexpectedEof => "UnexpectedEof"
  | .outOfMemory => "OutOfMemory"
  | .other => "Other"

def ofName? (name : String) : Option IoKind :=
  all.find? fun k => k.name == name

end IoKind

/-- A failed read or write on a byte stream. -/
structure IoError where
  kind : IoKind
  text : String
  deriving DecidableEq, Repr

/-- The operations that a stream refuses outside the stages they belong to. -/
inductive Refused where
  | metadataAfterHeaders
  | headersEndBeforeRequestLine
  | bodyFrame
  | bodyFrameOnUnread
  | endBeforeRequestLine
  | requestLineWithoutMetadata
  | availableNow
  | blockUntilContent
  | consumeBeyondBuffered
  | secondReply
  | other (operation : String)
  deriving DecidableEq, Repr

def Refused.text : Refused → String
  | .metadataAfterHeaders => "metadata frame after header section"
  | .headersEndBeforeRequestLine => "end of headers before request line"
  | .bodyFrame => "body frame"
  | .bodyFrameOnUnread => "body frame with unconsumed content"
  | .endBeforeRequestLine => "stream end before request line"
  | .requestLineWithoutMetadata => "request line without metadata"
  | .availableNow => "available_now"
  | .blockUntilContent => "block_until_content"
  | .consumeBeyondBuffered => "consume beyond buffered content"
  | .secondReply => "second reply on a stream"
  | .other operation => operation

def illegalOnStream (operation : Refused) (state : Lifecycle) : String :=
  "Illegal state for " ++ operation.text ++ ": " ++ state.name

def invalidSettings (what : String) : String :=
  "Invalid configuration: " ++ what

/-- The ways in which the engine's side can be used out of turn. -/
inductive Misuse where
  | resetAfterCommit
  | writeAfterCompletion
  | informationalAfterCommit
  | headersAlreadyWritten
  | bodyOutsideResponse
  | noOpenReply (stream : Nat)
  | alreadyDispatched
  | noRequestLine
  | workerCrashed
  | onStream (operation : Refused) (state : Lifecycle)
  | settings (what : String)
  | other (what : String)
  deriving DecidableEq, Repr

def Misuse.text : Misuse → String
  | .resetAfterCommit => "reset after commit"
  | .writeAfterCompletion => "write after completion"
  | .informationalAfterCommit => "informational after commit"
  | .headersAlreadyWritten => "headers already written"
  | .bodyOutsideResponse => "body outside of a response"
  | .noOpenReply stream => "data frame on stream " ++ toString stream ++ " without an open reply"
  | .alreadyDispatched => "request already dispatched"
  | .noRequestLine => "header section without request line"
  | .workerCrashed => "request worker panicked"
  | .onStream operation state => illegalOnStream operation state
  | .settings what => invalidSettings what
  | .other what => what

inductive EngineError where
  | io (cause : IoError)
  | parse (what : String)
  | invalidVersion (what : String)
  | invalidMethod (what : String)
  | invalidStatus (what : String)
  | invalidHeader (what : String)
  | timeout
  | connectionClosed
  | illegalState (what : Misuse)
  | unsupported (what : String)
  | transport (what : String)
  /-- The callee gave out without an answer; there is nothing to tell. -/
  | crashed
  deriving DecidableEq, Repr

namespace EngineError

def message : EngineError → String
  | .io cause => "I/O error: " ++ cause.text
  | .parse what => "Parse error: " ++ what
  | .invalidVersion what => "Invalid HTTP version: " ++ what
  | .invalidMethod what => "Invalid HTTP method: " ++ what
  | .invalidStatus what => "Invalid HTTP status: " ++ what
  | .invalidHeader what => "Invalid header: " ++ what
  | .timeout => "Timeout"
  | .connectionClosed => "Connection closed"
  | .illegalState what => "Illegal state: " ++ what.text
  | .unsupported what => "Unsupported operation: " ++ what
  | .transport what => "Transport error: " ++ what
  | .crashed => ""

/-- How a failed response write looks to a byte-stream writer. -/
def toWriteError : EngineError → IoError
  | .io cause => cause
  | e => ⟨.other, e.message⟩

/-- How a failed body read looks to a byte-stream reader: an expired wait is an early end. -/
def toReadError : EngineError → IoError
  | .io cause => cause
  | .timeout => ⟨.unexpectedEof, "read timeout"⟩
  | e => ⟨.other, e.message⟩

def noInformational : EngineError := .unsupported "informational response"

def noRawBytes : EngineError := .unsupported "raw response bytes"

end EngineError

inductive StreamError where
  | http (cause : EngineError)
  | malformedRequest (what : String)
  | readTimeout (waited : Duration)
  | illegalState (operation : Refused) (state : Lifecycle)
  | unsupported (what : String)
  | transport (what : String)
  | invalidConfig (what : String)
  deriving DecidableEq, Repr

namespace StreamError

def message : StreamError → String
  | .http cause => "HTTP error: " ++ cause.message
  | .malformedRequest what => "Malformed request: " ++ what
  | .readTimeout waited => "Read timeout after " ++ waited.text
  | .illegalState operation state => illegalOnStream operation state
  | .unsupported what => "Unsupported operation: " ++ what
  | .transport what => "Transport error: " ++ what
  | .invalidConfig what => invalidSettings what

def toEngine : StreamError → EngineError
  | .http cause => cause
  | .malformedRequest what => .parse what
  | .readTimeout _ => .timeout
  | .illegalState operation state => .illegalState (.onStream operation state)
  | .unsupported what => .unsupported what
  | .transport what => .transport what
  | .invalidConfig what => .illegalState (.settings what)

end StreamError

end FramedHttp
