import FramedHttp.Exchange.Basic

/-!
# Streams served by workers

A session whose stream is served by an exchange: frames come in on one side, and on the other a worker
reads the body and answers in frames over the same link. The two sides take turns. A `Service` fixes one
order of turns: the worker starts when its gate is opened, and after that runs as far as it gets before the
next frame is delivered.
-/

set_option autoImplicit false

namespace FramedHttp

open Content

/-- A stream answered in frames. -/
abbrev Served := Session (Exchange ReplyState)

instance : Bench Served Link where
  outlet s := s.link
  withOutlet l s := s.withLink l

namespace Session

def new (settings : Settings) (link : Link) (pressure : Bool) (handler : Handler) : Served :=
  { stream := Stream.new settings link
      { handler := handler, maxIdle := settings.maxIdle, bufferSize := settings.bufferSize,
        sink := some { version := settings.replyVersion } }
    pressure := pressure }

def worker? (s : Served) : Option (Worker ReplyState) :=
  s.stream.engine.worker

def withWorker (x : Worker ReplyState × Served) : Served :=
  x.2.withStream (x.2.stream.withEngine { x.2.stream.engine with worker := some x.1 })

/-- One step of the worker, if it can make one. -/
def work (s : Served) : Option Served :=
  match s.worker? with
  | none => none
  | some w => (Worker.step (w, s)).map withWorker

/-- The wait of a waiting worker expires. -/
def expireWorker (s : Served) : Served :=
  match s.worker? with
  | none => s
  | some w => withWorker (Worker.expire (w, s))

def isWorkerWaiting (s : Served) : Bool :=
  match s.worker? with
  | none => false
  | some w => w.isWaiting

/-- A bound on the steps the worker can make by itself. -/
def workLeft (s : Served) : Nat :=
  match s.worker? with
  | none => 0
  | some w => Worker.stepsLeft (w, s)

/-- The worker gets as far as it can. Where a wait is over before anything can arrive, it expires. -/
def settleWorker (expires : Bool) : Nat → Served → Served
  | 0, s => s
  | n + 1, s =>
    match s.work with
    | some s => settleWorker expires n s
    | none => if expires && s.isWorkerWaiting then settleWorker expires n s.expireWorker else s

end Session

/-- What can happen on a served stream: the first frame of the inbox is delivered, the worker takes a step,
its wait expires, or the session calls the stream without minding the inbox. -/
inductive Turn where
  | deliver
  | work
  | expire
  | receive (frame : InFrame)
  | dispatch
  deriving DecidableEq, Repr

namespace Session

def turn (t : Turn) (s : Served) : Served :=
  match t with
  | .deliver => (s.deliverNext.map Prod.snd).getD s
  | .work => s.work.getD s
  | .expire => if s.isWorkerWaiting then s.expireWorker else s
  | .receive frame => s.withStream (s.stream.receive frame).2
  | .dispatch => s.withStream s.stream.dispatch.2

def turns : List Turn → Served → Served
  | [], s => s
  | t :: ts, s => turns ts (s.turn t)

end Session

structure Service where
  session : Served
  /-- The worker may start. -/
  gateOpen : Bool := false
  /-- A wait is over before anything new can arrive. -/
  expires : Bool := false

inductive ServiceOp where
  | openGate
  | send (frames : List InFrame)
  | dispatch
  | join
  deriving DecidableEq, Repr

inductive ServiceResult where
  | done
  | streamFailed (error : StreamError)
  | requestFailed (error : EngineError)
  /-- The worker waits, so there is no result yet. -/
  | stalled
  deriving DecidableEq, Repr

inductive WorkerStatus where
  | none
  | gated
  | stalled
  | finished
  | joined
  deriving DecidableEq, Repr

def WorkerStatus.name : WorkerStatus → String
  | .none => "none"
  | .gated => "gated"
  | .stalled => "stalled"
  | .finished => "finished"
  | .joined => "joined"

namespace Service

/-- Waits of less than a second are over at once, longer ones never. -/
def new (settings : Settings) (link : Link) (pressure : Bool) (handler : Handler) : Service :=
  { session := Session.new settings link pressure handler
    expires := decide (settings.maxIdle.nanos < 1000000000) }

def settle (s : Service) : Service :=
  if s.gateOpen then { s with session := s.session.settleWorker s.expires s.session.workLeft } else s

def resultOf : Except StreamError Unit → ServiceResult
  | .ok _ => .done
  | .error e => .streamFailed e

/-- Delivers one frame and lets the worker run, `n` times at most. -/
def deliverAll : Nat → Service → Except StreamError Unit × Service
  | 0, s => (.ok (), s)
  | n + 1, s =>
    match s.session.deliverNext with
    | none => (.ok (), s)
    | some (.error e, session) => (.error e, { s with session := session })
    | some (.ok _, session) => deliverAll n { s with session := session }.settle

def joinWorker (s : Service) : ServiceResult × Service :=
  match s.session.stream.engine.join with
  | none => (.stalled, s)
  | some (r, engine) =>
    (match r with
      | .ok _ => .done
      | .error e => .requestFailed e,
     { s with session := s.session.withStream (s.session.stream.withEngine engine) })

def act (op : ServiceOp) (s : Service) : ServiceResult × Service :=
  match op with
  | .openGate => (.done, { s with gateOpen := true }.settle)
  | .send frames =>
    let r := deliverAll (s.session.inbox.length + frames.length)
      { s with session := s.session.enqueue frames }
    (resultOf r.1, r.2)
  | .dispatch =>
    let r := s.session.stream.dispatch
    (resultOf r.1, { s with session := s.session.withStream r.2 })
  | .join => { s with gateOpen := true }.settle.joinWorker

def perform (op : ServiceOp) (s : Service) : ServiceResult × Service :=
  act op s.settle

/-- The worker's standing after an operation; a join is told once, by the operation that made it. -/
def status (joinedBefore : Bool) (s : Service) : WorkerStatus :=
  match s.session.worker? with
  | none => .none
  | some w =>
    if s.session.stream.engine.joined then (if joinedBefore then .none else .joined)
    else if w.isFinished then .finished
    else if s.gateOpen then .stalled
    else .gated

end Service

end FramedHttp
