import FramedHttp.Exchange.Basic
import FramedHttp.Content.Pieces
import FramedHttp.Wire.Encoder

/-!
# Exchanges without a stream

An exchange called directly, over a body in pieces and a byte-stream writer. Nothing arrives while its
worker runs, so the worker is run to its end as soon as the header section is complete.
-/

set_option autoImplicit false

namespace FramedHttp

open Content

instance {γ ο : Type} [Source γ] : Source (γ × ο) where
  available s := Source.available s.1
  await waits s :=
    let x := Source.await waits s.1
    (x.1, x.2, s.2)
  expire maxIdle s :=
    let x := Source.expire maxIdle s.1
    (x.1, x.2, s.2)
  consume n s := (Source.consume n s.1).mapState (·, s.2)
  discard s := (Source.discard s.1).mapState (·, s.2)
  reads s := Source.reads s.1

instance {γ ο : Type} [Source γ] : Bench (γ × ο) ο where
  outlet s := s.2
  withOutlet o s := (s.1, o)

/-- At most so many steps of a worker; a wait expires. -/
def Worker.runUpTo {σ ω ο : Type} [Sink (σ × ο)] [Bench ω ο] : Nat → Worker σ × ω → Worker σ × ω
  | 0, x => x
  | n + 1, x =>
    match Worker.step x with
    | some y => runUpTo n y
    | none => if x.1.isWaiting then runUpTo n (Worker.expire x) else x

structure DirectExchange where
  exchange : Exchange Framing
  body : Pieces
  writer : Writer

inductive DirectOp where
  | call (cb : Callback)
  | join
  deriving DecidableEq, Repr

namespace DirectExchange

def new (handler : Handler) (bufferSize : Nat) (body : Pieces) (writer : Writer) : DirectExchange :=
  { exchange := { handler := handler, bufferSize := bufferSize, sink := some .pending }
    body := body, writer := writer }

def call (cb : Callback) (s : DirectExchange) : Outcome EngineError DirectExchange :=
  (Exchange.receive Pieces.consume cb (s.exchange, s.body, s.writer)).mapState fun x =>
    { exchange := x.1, body := x.2.1, writer := x.2.2 }

/-- Runs the worker to its end and takes its result. -/
def join (s : DirectExchange) : Outcome EngineError DirectExchange :=
  let ran : DirectExchange :=
    match s.exchange.worker with
    | none => s
    | some w =>
      let bench := (s.body, s.writer)
      let x := Worker.runUpTo (Worker.stepsLeft (w, bench)) (w, bench)
      { exchange := { s.exchange with worker := some x.1 }, body := x.2.1, writer := x.2.2 }
  match ran.exchange.join with
  | none => (.ok (), ran)
  | some (r, exchange) => (r, { ran with exchange := exchange })

def perform (op : DirectOp) (s : DirectExchange) : Outcome EngineError DirectExchange :=
  match op with
  | .join => s.join
  | .call cb =>
    match cb with
    | .headersComplete => (s.call cb).andThen join
    | _ => s.call cb

end DirectExchange

end FramedHttp
