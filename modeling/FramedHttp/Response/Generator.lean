import FramedHttp.Response.Sink

/-!
# Response generator

The generator gathers what an application produces (status, reason, version, header fields, body octets)
and hands it to its sink when the headers are committed, at every flush and on completion. The phase only
moves forward. Before the commit the head may change and everything may be reset; the commit takes the
head as it is then, and every later change is ignored.
-/

set_option autoImplicit false

namespace FramedHttp

inductive Phase where
  | opened
  | committed
  | completed
  deriving DecidableEq, Repr

structure Generator (σ : Type) where
  sink : σ
  /-- The buffer is flushed as soon as it holds this many octets. -/
  capacity : Nat
  /-- Body octets are dropped, as in the answer to a HEAD request. -/
  omitBody : Bool := false
  head : ResponseHead := {}
  buffer : Octets := []
  phase : Phase := .opened
  deriving Repr

/-- What the application can see of its response. -/
structure ResponseView where
  status : Status
  headers : Headers
  committed : Bool
  complete : Bool
  buffered : Nat
  deriving DecidableEq, Repr

namespace Generator

variable {σ τ : Type}

def new (sink : σ) (capacity : Nat) : Generator σ :=
  { sink := sink, capacity := max capacity 1 }

def isCommitted (g : Generator σ) : Bool := g.phase != .opened

def isComplete (g : Generator σ) : Bool := g.phase == .completed

def view (g : Generator σ) : ResponseView :=
  { status := g.head.status, headers := g.head.headers, committed := g.isCommitted,
    complete := g.isComplete, buffered := g.buffer.length }

def mapSink (f : σ → τ) (g : Generator σ) : Generator τ :=
  { sink := f g.sink, capacity := g.capacity, omitBody := g.omitBody, head := g.head,
    buffer := g.buffer, phase := g.phase }

/-- A change of the head; after the commit there is nothing left to change. -/
def changeHead (f : ResponseHead → ResponseHead) (g : Generator σ) : Generator σ :=
  match g.phase with
  | .opened => { g with head := f g.head }
  | _ => g

def setStatus (status : Status) : Generator σ → Generator σ :=
  changeHead fun h => { h with status := status }

def setReason (reason : String) : Generator σ → Generator σ :=
  changeHead fun h => { h with reason? := some reason }

def setVersion (version : Version) : Generator σ → Generator σ :=
  changeHead fun h => { h with version := version }

def setHeader (name value : String) : Generator σ → Generator σ :=
  changeHead fun h => { h with headers := h.headers.set name value }

def addHeader (name value : String) : Generator σ → Generator σ :=
  changeHead fun h => { h with headers := h.headers.append name value }

/-- Back to an empty response, as long as nothing was committed. -/
def reset (g : Generator σ) : Outcome EngineError (Generator σ) :=
  match g.phase with
  | .opened => (.ok (), { g with buffer := [], head := {} })
  | _ => (.error (.illegalState .resetAfterCommit), g)

variable [Sink σ]

def emit (e : Emission) (g : Generator σ) : Outcome EngineError (Generator σ) :=
  let r := Sink.emit e g.sink
  (r.1, { g with sink := r.2 })

/-- The buffer is handed over and the phase moves on, whether or not the sink takes the headers. -/
def commit (last : Bool) (g : Generator σ) : Outcome EngineError (Generator σ) :=
  { g with buffer := [], phase := .committed }.emit (.headers g.head g.buffer last)

def emitBuffer (last : Bool) (g : Generator σ) : Outcome EngineError (Generator σ) :=
  { g with buffer := [] }.emit (.body g.buffer last)

/-- With nothing buffered a flush does nothing; before the commit it is put off, so that a body that is
still to come finds the response open. -/
def flush (g : Generator σ) : Outcome EngineError (Generator σ) :=
  match g.phase with
  | .opened => if g.buffer.isEmpty then (.ok (), g) else g.commit false
  | .committed => if g.buffer.isEmpty then (.ok (), g) else g.emitBuffer false
  | .completed => (.ok (), g)

def gather (data : Octets) (g : Generator σ) : Outcome EngineError (Generator σ) :=
  let h := { g with buffer := g.buffer ++ data }
  if h.capacity ≤ h.buffer.length then h.flush else (.ok (), h)

def write (data : Octets) (g : Generator σ) : Outcome EngineError (Generator σ) :=
  match g.phase with
  | .completed => (.error (.illegalState .writeAfterCompletion), g)
  | _ => if g.omitBody then (.ok (), g) else g.gather data

def close (g : Generator σ) : Outcome EngineError (Generator σ) :=
  { g with phase := .completed }.emit .finish

/-- What is left goes out as the last piece, then the sink is told the end. Completing again does nothing. -/
def complete (g : Generator σ) : Outcome EngineError (Generator σ) :=
  match g.phase with
  | .completed => (.ok (), g)
  | .opened => (g.commit true).andThen close
  | .committed => if g.buffer.isEmpty then g.close else (g.emitBuffer true).andThen close

def informational (status : Status) (g : Generator σ) : Outcome EngineError (Generator σ) :=
  if status.isInformational then
    match g.phase with
    | .opened => g.emit (.informational status)
    | _ => (.error (.illegalState .informationalAfterCommit), g)
  else (.error (.invalidStatus (toString status.code ++ " is not informational")), g)

def raw (octets : Octets) (g : Generator σ) : Outcome EngineError (Generator σ) :=
  g.emit (.raw octets)

/-- A byte-stream write hands over the same data again as often as it is interrupted. -/
def writeThrough (data : Octets) : Nat → Generator σ → Outcome EngineError (Generator σ)
  | 0, g =>
    match g.write data with
    | (.ok _, h) => (.ok (), h)
    | (.error e, h) => (.error (.io e.toWriteError), h)
  | tries + 1, g =>
    match g.write data with
    | (.ok _, h) => (.ok (), h)
    | (.error e, h) =>
      if e.toWriteError.kind = .interrupted then writeThrough data tries h
      else (.error (.io e.toWriteError), h)

def streamWrite (data : Octets) (g : Generator σ) : Outcome EngineError (Generator σ) :=
  if data.isEmpty then (.ok (), g) else writeThrough data (Sink.interruptions g.sink) g

def streamFlush (g : Generator σ) : Outcome EngineError (Generator σ) :=
  g.flush.mapError fun e => .io e.toWriteError

end Generator

/-- One thing an application can do to its response. A status is given by its code. -/
inductive ResponseOp where
  | status (code : Nat)
  | reason (text : String)
  | version (version : Version)
  | header (name value : String)
  | addHeader (name value : String)
  | write (data : Octets)
  | streamWrite (data : Octets)
  | flush
  | streamFlush
  | complete
  | reset
  | informational (code : Nat)
  | raw (octets : Octets)
  deriving DecidableEq, Repr

namespace Generator

variable {σ : Type} [Sink σ]

/-- A code that is no status fails before the response is touched. -/
def withStatus (code : Nat) (f : Status → Generator σ → Outcome EngineError (Generator σ))
    (g : Generator σ) : Outcome EngineError (Generator σ) :=
  match Status.ofCode code with
  | .ok status => f status g
  | .error e => (.error e, g)

def perform : ResponseOp → Generator σ → Outcome EngineError (Generator σ)
  | .status code, g => withStatus code (fun s g => (.ok (), g.setStatus s)) g
  | .reason text, g => (.ok (), g.setReason text)
  | .version v, g => (.ok (), g.setVersion v)
  | .header name value, g => (.ok (), g.setHeader name value)
  | .addHeader name value, g => (.ok (), g.addHeader name value)
  | .write data, g => g.write data
  | .streamWrite data, g => g.streamWrite data
  | .flush, g => g.flush
  | .streamFlush, g => g.streamFlush
  | .complete, g => g.complete
  | .reset, g => g.reset
  | .informational code, g => withStatus code informational g
  | .raw octets, g => g.raw octets

/-- The response after a list of operations, whatever each of them answered. -/
def run : List ResponseOp → Generator σ → Generator σ
  | [], g => g
  | op :: ops, g => run ops (g.perform op).2

theorem run_append (ops rest : List ResponseOp) (g : Generator σ) :
    run (ops ++ rest) g = run rest (run ops g) := by
  induction ops generalizing g with
  | nil => rfl
  | cons op ops ih => exact ih _

end Generator

end FramedHttp
