import FramedHttp.Error
import FramedHttp.Octets
import FramedHttp.Outcome

/-!
# Byte-stream writer

A writer keeps what was written to it and how often it was flushed. It may have room for a limited number
of octets in all: the write that crosses the limit is cut short there and fails. A full writer either
breaks or takes nothing. Which flushes fail is given by their numbers.
-/

set_option autoImplicit false

namespace FramedHttp

structure Writer where
  limit : Option Nat := none
  /-- Full means that nothing is taken, not that the stream is broken. -/
  takesNothing : Bool := false
  /-- Whether the flush with this number, counted from zero, fails. -/
  flushFails : Nat → Bool := fun _ => false
  octets : Octets := []
  flushes : Nat := 0

namespace Writer

def fullError (w : Writer) : IoError :=
  if w.takesNothing then ⟨.writeZero, "failed to write whole buffer"⟩ else ⟨.brokenPipe, "writer full"⟩

/-- What of the data still fits. -/
def fitting (w : Writer) (data : Octets) : Octets :=
  match w.limit with
  | none => data
  | some limit => data.take (limit - w.octets.length)

def fits (w : Writer) (data : Octets) : Bool :=
  match w.limit with
  | none => true
  | some limit => decide (data.length ≤ limit - w.octets.length)

def put (data : Octets) (w : Writer) : Outcome EngineError Writer :=
  let written := { w with octets := w.octets ++ w.fitting data }
  if w.fits data then (.ok (), written) else (.error (.io w.fullError), written)

def flush (w : Writer) : Outcome EngineError Writer :=
  let counted := { w with flushes := w.flushes + 1 }
  if w.flushFails w.flushes then (.error (.io ⟨.other, "flush failed"⟩), counted) else (.ok (), counted)

theorem put_free {w : Writer} (h : w.limit = none) (data : Octets) :
    w.put data = (.ok (), { w with octets := w.octets ++ data }) := by
  simp [put, fits, fitting, h]

theorem flush_snd (w : Writer) : w.flush.2 = { w with flushes := w.flushes + 1 } := by
  unfold flush
  split <;> rfl

end Writer

end FramedHttp
