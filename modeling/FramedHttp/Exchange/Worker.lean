import FramedHttp.Exchange.Handler

/-!
# Request workers

A worker runs the application's handler for one request, in steps that can be put between the deliveries of
frames: an instruction, one read of a longer reading, the completion of the response, the disposal of what
is left of the body. The handler's error decides the response only while nothing was committed; the body is
given up after the response, and a failure in doing so is nobody's concern.
-/

set_option autoImplicit false

namespace FramedHttp

open Content

/-- Where a worker works: a body to read, and an outlet that its sink writes to. -/
class Bench (ω : Type) (ο : outParam Type) extends Source ω where
  outlet : ω → ο
  withOutlet : ο → ω → ω

inductive WorkerStage where
  | handling (todo : Handler)
  | reading (reading : Reading) (purpose : Purpose) (catches : Bool) (todo : Handler)
  /-- The handler is through, and so answers. -/
  | responding (outcome : Except EngineError Unit)
  /-- The response is through. -/
  | disposing (outcome : Except EngineError Unit)
  | finished (outcome : Except EngineError Unit)
  | crashed

structure Worker (σ : Type) where
  request : RequestHead
  maxIdle : Duration
  response : Generator σ
  stage : WorkerStage
  log : List (Except EngineError Answer) := []

namespace Worker

variable {σ ω ο : Type}

def new (request : RequestHead) (maxIdle : Duration) (bufferSize : Nat) (sink : σ) (handler : Handler) :
    Worker σ :=
  { request := request
    maxIdle := maxIdle
    response := { Generator.new sink bufferSize with omitBody := !request.method.allowsResponseBody }
    stage := .handling handler }

def isFinished (w : Worker σ) : Bool :=
  match w.stage with
  | .finished _ | .crashed => true
  | _ => false

/-- How the worker ended, if it has. A crash is reported to whoever asks. -/
def result? (w : Worker σ) : Option (Except EngineError Unit) :=
  match w.stage with
  | .finished outcome => some outcome
  | .crashed => some (.error (.illegalState .workerCrashed))
  | _ => none

/-- The worker waits for body octets. -/
def isWaiting (w : Worker σ) : Bool :=
  match w.stage with
  | .reading r _ _ _ => r.waits
  | _ => false

/-- The worker goes on after an instruction with this result. -/
def record (result : Except EngineError Answer) (catches : Bool) (todo : Handler) (w : Worker σ) :
    Worker σ :=
  let next : WorkerStage :=
    match result with
    | .ok _ => .handling todo
    | .error e => if catches then .handling todo else .responding (.error e)
  { w with stage := next, log := w.log ++ [result] }

section Steps

variable [Sink (σ × ο)] [Bench ω ο]

def onResponse (f : Generator (σ × ο) → Outcome EngineError (Generator (σ × ο))) (x : Worker σ × ω) :
    Outcome EngineError (Worker σ × ω) :=
  let r := f (x.1.response.mapSink fun sink => (sink, Bench.outlet x.2))
  (r.1, { x.1 with response := r.2.mapSink Prod.fst }, Bench.withOutlet r.2.sink.2 x.2)

/-- An operation on the response, as an instruction. -/
def respond (f : Generator (σ × ο) → Outcome EngineError (Generator (σ × ο))) (catches : Bool)
    (todo : Handler) (x : Worker σ × ω) : Worker σ × ω :=
  let r := onResponse f x
  (r.2.1.record (r.1.map fun _ => .done) catches todo, r.2.2)

def deliver (purpose : Purpose) (catches : Bool) (todo : Handler) (result : Except EngineError Octets)
    (x : Worker σ × ω) : Worker σ × ω :=
  match purpose, result with
  | .echo, .ok octets => respond (·.write octets) catches todo x
  | .answer op, .ok octets => (x.1.record ((op.accept octets).map .body) catches todo, x.2)
  | _, .error e => (x.1.record (.error e) catches todo, x.2)

def proceed (purpose : Purpose) (catches : Bool) (todo : Handler) (p : Progress) (x : Worker σ × ω) :
    Worker σ × ω :=
  match p with
  | .done result => deliver purpose catches todo result x
  | .more r => ({ x.1 with stage := .reading r purpose catches todo }, x.2)
  | .waiting r => ({ x.1 with stage := .reading r purpose catches todo }, x.2)

def perform (line : HandlerLine) (todo : Handler) (x : Worker σ × ω) : Worker σ × ω :=
  match line.instruction with
  | .respond op => respond (Generator.perform op) line.catches todo x
  | .look => (x.1.record (.ok (.view x.1.response.view)) line.catches todo, x.2)
  | .info => (x.1.record (.ok (.request x.1.request)) line.catches todo, x.2)
  | .requestHeader name =>
    (x.1.record (.ok (.value (x.1.request.headers.get? name))) line.catches todo, x.2)
  | .fail e => (x.1.record (.error e) line.catches todo, x.2)
  | .crash => ({ x.1 with stage := .crashed }, x.2)
  | .echo => proceed .echo line.catches todo (Reading.start .toEnd) x
  | .body op =>
    match op.goal? with
    | some goal => proceed (.answer op) line.catches todo (Reading.start goal) x
    | none =>
      let r := op.immediate x.2
      (x.1.record (r.1.map .body) line.catches todo, r.2)

/-- A failed handler gets an answer of its own, in place of everything that was not committed. -/
def conclude (outcome : Except EngineError Unit) (g : Generator (σ × ο)) :
    Outcome EngineError (Generator (σ × ο)) :=
  match outcome with
  | .ok _ => g.complete
  | .error e =>
    let g := if g.isCommitted then g else (g.reset).2.setStatus .internalServerError
    (.error e, g.complete.2)

/-- One step. There is none when the worker has ended, or waits and nothing has come. -/
def step (x : Worker σ × ω) : Option (Worker σ × ω) :=
  match x.1.stage with
  | .handling [] => some ({ x.1 with stage := .responding (.ok ()) }, x.2)
  | .handling (line :: todo) => some (perform line todo x)
  | .reading r purpose catches todo =>
    let p := r.step x.2
    match p.1, r.waits with
    | .waiting _, true => none
    | progress, _ => some (proceed purpose catches todo progress (x.1, p.2))
  | .responding outcome =>
    let r := onResponse (conclude outcome) x
    some ({ r.2.1 with stage := .disposing r.1 }, r.2.2)
  | .disposing outcome => some ({ x.1 with stage := .finished outcome }, (Source.discard x.2).2)
  | .finished _ => none
  | .crashed => none

/-- The wait of a waiting worker takes too long. -/
def expire (x : Worker σ × ω) : Worker σ × ω :=
  match x.1.stage with
  | .reading r purpose catches todo =>
    if r.waits then
      let e := Source.expire x.1.maxIdle x.2
      proceed purpose catches todo (r.fail e.1.toReadError) (x.1, e.2)
    else x
  | _ => x

/-- A bound on the steps that the worker can still make without anything new arriving. -/
def stepsLeft (x : Worker σ × ω) : Nat :=
  let perLine := Source.reads x.2 + 4
  match x.1.stage with
  | .handling todo => (todo.length + 1) * perLine + 3
  | .reading _ _ _ todo => (todo.length + 2) * perLine + 3
  | _ => 3

end Steps

end Worker

end FramedHttp
