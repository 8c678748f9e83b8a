import FramedHttp.Proofs.Stream.Move
import FramedHttp.Proofs.Stream.Script

/-!
# What every use of a session keeps

The calls of a script change a stream by moves, and beyond that only by releasing or giving up body octets
and by pulling or terminating over the link. A property of streams that all of these keep holds after
every script, and so after every run of a session that starts with it.
-/

set_option autoImplicit false

namespace FramedHttp

open Content

variable {ε : Type} [Engine ε]

structure Stream.Kept (P : Stream ε → Prop) : Prop where
  settled : ∀ {s : Stream ε}, P s → s.pending = false
  move : ∀ {s t : Stream ε}, P s → Move s t → P t
  release : ∀ {s : Stream ε}, P s → ∀ {n : Nat} {b : Buffer}, s.buffer.release? n = some b →
    P (s.withBuffer b)
  discard : ∀ {s : Stream ε}, P s → P (s.withBuffer s.buffer.discard)
  pull : ∀ {s : Stream ε}, P s → P (s.withLink s.link.pull.2)
  terminate : ∀ {s : Stream ε}, P s → P (s.withLink s.link.terminate.2)

variable {P : Stream ε → Prop} (hP : Stream.Kept P)
include hP

namespace Stream

theorem Kept.moves {s t : Stream ε} (hs : P s) (h : Moves s t) : P t := by
  induction h with
  | refl => exact hs
  | tail _ hm ih => exact hP.move ih hm

theorem Kept.receive {s : Stream ε} (hs : P s) (frame : InFrame) : P (s.receive frame).2 :=
  hP.moves hs (receive_moves frame s)

theorem Kept.dispatch {s : Stream ε} (hs : P s) : P s.dispatch.2 := by
  rwa [dispatch_settled s (hP.settled hs)]

theorem Kept.call {s : Stream ε} (hs : P s) (c : StreamCall) : P (s.call c).2 := by
  cases c with
  | receive frame => exact hP.receive hs frame
  | dispatch => exact hP.dispatch hs
  | release n =>
    simp only [Stream.call, Stream.release]
    split
    · next hb => exact hP.release hs hb
    · exact hs
  | discard => exact hP.discard hs
  | pull => exact hP.pull hs
  | terminate => exact hP.terminate hs

/-- What every call keeps, every script keeps. -/
theorem Kept.replay {s : Stream ε} (hs : P s) (calls : List StreamCall) : P (s.replay calls) := by
  induction calls generalizing s with
  | nil => exact hs
  | cons c calls ih => exact ih (hP.call hs c)

end Stream

namespace Session

theorem source_keeps : Keeps fun s : Session ε => P s.stream where
  await {s} hs waits := by
    change P (s.await waits).2.stream
    rw [await_replay]
    exact hP.replay hs _
  expire hs _ := hP.terminate hs
  consume {s} hs n := by
    change P ((s.consume n).mapError StreamError.toEngine).2.stream
    rw [Outcome.mapError_snd, consume_replay]
    exact hP.call hs _
  discard {s} hs := by
    change P (s.discard.mapError StreamError.toEngine).2.stream
    rw [Outcome.mapError_snd, discard_replay]
    exact hP.replay hs _

theorem deliverNext_keeps {s : Session ε} (hs : P s.stream) {r : Outcome StreamError (Session ε)}
    (hr : s.deliverNext = some r) : P r.2.stream := by
  unfold deliverNext at hr
  split at hr
  · cases hr
  · next frame rest _ =>
    have hf := hP.receive hs frame
    split at hr
    · cases hr
    · cases hr
      unfold afterDelivery
      dsimp only
      split <;> exact hf

/-- What every use keeps, every run keeps. -/
theorem run_keeps (ops : List SessionOp) {s : Session ε} (hs : P s.stream) : P (run ops s).stream := by
  rw [run_replay]
  exact hP.replay hs _

end Session

end FramedHttp
