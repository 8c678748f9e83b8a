import FramedHttp.Error
import FramedHttp.Octets
import FramedHttp.Outcome

/-!
# Body sources

A source answers a reader that waits for body octets with the unread part of a fragment, with the end of
the body, with a failure, or not yet. What it answers stays unread until it is consumed. `drain` reads and
consumes up to the end.
-/

set_option autoImplicit false

namespace FramedHttp.Content

inductive Await (ε : Type) where
  | content (octets : Octets)
  | ended
  | failed (error : ε)
  | waiting
  deriving DecidableEq, Repr

def Await.mapError {ε δ : Type} (f : ε → δ) : Await ε → Await δ
  | .content octets => .content octets
  | .ended => .ended
  | .failed e => .failed (f e)
  | .waiting => .waiting

class Source (γ : Type) where
  /-- How many octets can be read without waiting. -/
  available : γ → Except EngineError Nat
  /-- The next answer. A reader that comes back to a wait says so: it has asked for frames already. -/
  await : Bool → γ → Await EngineError × γ
  /-- The wait took too long. -/
  expire : Duration → γ → EngineError × γ
  consume : Nat → γ → Outcome EngineError γ
  /-- Skip what is left of the body. -/
  discard : γ → Outcome EngineError γ
  /-- A bound on how many reads can still bring octets or an interruption. -/
  reads : γ → Nat

section Drain

variable {γ : Type}

/-- Reads and consumes fragment by fragment until the end or the first failure, for `n` fragments at most. -/
def drain (await : γ → Await EngineError × γ) (consume : Nat → γ → Outcome EngineError γ) :
    Nat → γ → Outcome EngineError γ
  | 0, s => (.ok (), s)
  | n + 1, s =>
    match await s with
    | (.content octets, s) => (consume octets.length s).andThen (drain await consume n)
    | (.failed e, s) => (.error e, s)
    | (_, s) => (.ok (), s)

end Drain

end FramedHttp.Content
