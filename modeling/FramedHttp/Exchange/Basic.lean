import FramedHttp.Exchange.Worker
import FramedHttp.Frame.Reply
import FramedHttp.Stream.Session

/-!
# The reference engine

An exchange assembles a request from the callbacks and, once the header section is complete, starts a
worker for it. A request line that makes no sense is answered by the exchange itself, which then drops the
body as it arrives. A worker is named after the request; a name with a NUL character is no name, and the
attempt to use it crashes with sink and head already taken.
-/

set_option autoImplicit false

namespace FramedHttp

open Content

structure Exchange (σ : Type) where
  handler : Handler
  maxIdle : Duration := .seconds 30
  bufferSize : Nat := 16384
  sink : Option σ
  head : Option RequestHead := none
  lineError : Option EngineError := none
  /-- Answered without a worker. -/
  refused : Bool := false
  worker : Option (Worker σ) := none
  /-- How many workers were started. -/
  started : Nat := 0
  /-- Somebody has asked for the worker's result and got it. -/
  joined : Bool := false

namespace Exchange

variable {σ ο γ : Type}

def start (method target version : String) (x : Exchange σ) : Exchange σ :=
  match RequestHead.ofRequestLine method target version with
  | .ok head => { x with head := some head }
  | .error e => { x with lineError := some e }

def field (name value : String) (x : Exchange σ) : Exchange σ :=
  { x with head := x.head.map (·.withField name value) }

def isNameable (head : RequestHead) : Bool :=
  head.path.toList.all (· != '\x00')

def workerFor (sink : σ) (head : RequestHead) (x : Exchange σ) : Worker σ :=
  .new head x.maxIdle x.bufferSize sink x.handler

/-- Hands the request over to a worker. -/
def dispatch (sink : σ) (x : Exchange σ) : Outcome EngineError (Exchange σ) :=
  match x.head with
  | none => (.error (.illegalState .noRequestLine), x)
  | some head =>
    let x := { x with head := none }
    if isNameable head then (.ok (), { x with worker := some (x.workerFor sink head), started := x.started + 1 })
    else (.error .crashed, x)

section Callbacks

variable [Sink (σ × ο)]

def refusal (bufferSize : Nat) (sink : σ) (outlet : ο) : Outcome EngineError (Generator (σ × ο)) :=
  ((Generator.new (sink, outlet) bufferSize).setStatus .badRequest).complete

def headersComplete (x : Exchange σ) (outlet : ο) : Outcome EngineError (Exchange σ × ο) :=
  match x.sink with
  | none => (.error (.illegalState .alreadyDispatched), x, outlet)
  | some sink =>
    let x := { x with sink := none }
    match x.lineError with
    | some _ =>
      let x := { x with lineError := none, refused := true }
      (refusal x.bufferSize sink outlet).mapState fun g => (x, g.sink.2)
    | none => (x.dispatch sink).mapState fun x => (x, outlet)

/-- One callback, with the body it may consume from and the outlet it may write to. -/
def receive (consume : Nat → γ → Outcome EngineError γ) (cb : Callback) (s : Exchange σ × γ × ο) :
    Outcome EngineError (Exchange σ × γ × ο) :=
  match cb with
  | .start method target version => (.ok (), s.1.start method target version, s.2)
  | .field name value => (.ok (), s.1.field name value, s.2)
  | .headersComplete => (s.1.headersComplete s.2.2).mapState fun x => (x.1, s.2.1, x.2)
  | .chunk octets =>
    if s.1.refused then (consume octets.length s.2.1).mapState fun b => (s.1, b, s.2.2)
    else (.ok (), s)
  | .complete _ => (.ok (), s)

end Callbacks

/-- The result of the worker, once it has ended; nothing when there is none or it was asked for before. -/
def join (x : Exchange σ) : Option (Except EngineError Unit × Exchange σ) :=
  if x.joined then some (.ok (), x)
  else
    match x.worker with
    | none => some (.ok (), x)
    | some w => w.result?.map fun r => (r, { x with joined := true })

end Exchange

/-- How an exchange consumes from the body of its stream. -/
def releaseAt (state : Lifecycle) (n : Nat) (b : Buffer) : Outcome EngineError Buffer :=
  match b.release? n with
  | some b => (.ok (), b)
  | none => (.error (StreamError.illegalState .consumeBeyondBuffered state).toEngine, b)

instance {σ : Type} [Sink (σ × Link)] : Engine (Exchange σ) where
  call cb occasion seat :=
    (Exchange.receive (releaseAt occasion.state) cb (seat.engine, seat.buffer, seat.link)).mapState
      fun s => { engine := s.1, buffer := s.2.1, link := s.2.2 }

end FramedHttp
