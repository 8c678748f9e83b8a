import FramedHttp.Content.Body

/-!
# Sources that carry another one

A source may carry another one and answer just as it does, keeping an account of its own beside it. Every
use of a body then answers as it would at the source that is carried, and leaves that one as it would.
-/

set_option autoImplicit false

namespace FramedHttp.Content

variable {γ δ : Type} [Source γ] [Source δ]

/-- The part `f` of a source answers for the whole. -/
structure Follows (f : γ → δ) : Prop where
  available : ∀ s, Source.available s = Source.available (f s)
  await : ∀ waits s, (Source.await waits s).map id f = Source.await waits (f s)
  expire : ∀ maxIdle s, (Source.expire maxIdle s).map id f = Source.expire maxIdle (f s)
  consume : ∀ n s, (Source.consume n s).map id f = Source.consume n (f s)
  discard : ∀ s, (Source.discard s).map id f = Source.discard (f s)
  reads : ∀ s, Source.reads s = Source.reads (f s)

variable {f : γ → δ} (h : Follows f)
include h

theorem read_follows (waits : Bool) (wanted : Option Nat) (s : γ) :
    (read waits wanted s).map id f = read waits wanted (f s) := by
  unfold read
  split
  · rfl
  · rw [← h.await waits s]
    rcases Source.await waits s with ⟨fragment | _ | _ | _, t⟩
    · have hc := h.consume (Reading.cut wanted fragment).length t
      dsimp only [Prod.map, id]
      rw [← hc]
      rcases Source.consume (Reading.cut wanted fragment).length t with ⟨_ | _, u⟩ <;> rfl
    · rfl
    · rfl
    · rfl

theorem step_follows (r : Reading) (s : γ) : (r.step s).map id f = r.step (f s) := by
  unfold Reading.step
  rw [← read_follows h]
  rfl

theorem finish_follows (maxIdle : Duration) (n : Nat) (p : Progress) (s : γ) :
    (p.finish maxIdle n s).map id f = p.finish maxIdle n (f s) := by
  induction n generalizing p s with
  | zero => cases p <;> rfl
  | succ n ih =>
    cases p with
    | done => rfl
    | more r =>
      simp only [Progress.finish]
      rw [ih, ← step_follows h]
      rfl
    | waiting r =>
      simp only [Progress.finish]
      rw [ih, ← h.expire]
      rfl

/-- Every use of a body. -/
theorem perform_follows (maxIdle : Duration) (op : BodyOp) (s : γ) :
    (op.perform maxIdle s).map id f = op.perform maxIdle (f s) := by
  unfold BodyOp.perform
  split
  · cases op with
    | available =>
      simp only [BodyOp.immediate, ← h.available]
      rfl
    | discard =>
      simp only [BodyOp.immediate, ← h.discard]
      rfl
    | _ => rfl
  · simp only [readAll, ← h.reads, ← finish_follows h]
    rfl

end FramedHttp.Content
