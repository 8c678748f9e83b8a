import FramedHttp.Proofs.Response.Run

/-!
# Octets that a response has accepted

The octets of a response body are those written before its completion, unless the body is omitted, since
the last reset that succeeded. `Carries` collects what a sink has to provide, one operation at a time, for
a relation between a response and its accepted octets to hold throughout every run.
-/

set_option autoImplicit false

namespace FramedHttp

namespace Generator

variable {σ : Type}

/-- The accepted octets after an operation on a response that had accepted `octets`. -/
def accept (op : ResponseOp) (g : Generator σ) (octets : Octets) : Octets :=
  match op with
  | .write data | .streamWrite data => if g.isComplete || g.omitBody then octets else octets ++ data
  | .reset =>
    match g.reset.1 with
    | .ok _ => []
    | .error _ => octets
  | _ => octets

theorem accept_headChange {op : ResponseOp} (h : op.isHeadChange = true) (g : Generator σ)
    (octets : Octets) : accept op g octets = octets := by
  cases op <;> first | rfl | cases h

theorem accept_aside {op : ResponseOp} (h : op.isAside = true) (g : Generator σ)
    (octets : Octets) : accept op g octets = octets := by
  cases op <;> first | rfl | cases h

variable [Sink σ]

/-- The octets accepted in a run that starts with `octets`. -/
def accepted : List ResponseOp → Generator σ → Octets → Octets
  | [], _, octets => octets
  | op :: ops, g, octets => accepted ops (g.perform op).2 (accept op g octets)

/-- The call succeeds and leaves the relation in place. -/
def Yields (I : Generator σ → Octets → Prop) (r : Outcome EngineError (Generator σ)) (octets : Octets) :
    Prop :=
  r.1 = .ok () ∧ I r.2 octets

/-- A relation between a response and its accepted octets, over a sink that takes what it is handed. -/
structure Carries (I : Generator σ → Octets → Prop) : Prop where
  change : ∀ {g : Generator σ} {octets : Octets}, I g octets → g.phase = .opened →
    ∀ head, I { g with head := head } octets
  reset : ∀ {g : Generator σ} {octets : Octets}, I g octets → g.phase = .opened →
    I { g with buffer := [], head := {} } []
  gather : ∀ {g : Generator σ} {octets : Octets}, I g octets → g.phase ≠ .completed →
    g.omitBody = false → ∀ data, I { g with buffer := g.buffer ++ data } (octets ++ data)
  commit : ∀ {g : Generator σ} {octets : Octets}, I g octets → g.phase = .opened → g.buffer ≠ [] →
    Yields I (g.commit false) octets
  emitBuffer : ∀ {g : Generator σ} {octets : Octets}, I g octets → g.phase = .committed →
    g.buffer ≠ [] → Yields I (g.emitBuffer false) octets
  complete : ∀ {g : Generator σ} {octets : Octets}, I g octets → g.phase ≠ .completed →
    Yields I g.complete octets

namespace Carries

variable {I : Generator σ → Octets → Prop} (hI : Carries I) {g : Generator σ} {octets : Octets}
include hI

theorem changeHead (h : I g octets) (f : ResponseHead → ResponseHead) : I (g.changeHead f) octets := by
  by_cases hp : g.phase = .opened
  · rw [changeHead_opened hp]
    exact hI.change h hp _
  · rwa [changeHead_fixed hp]

theorem reset_accept (h : I g octets) : I g.reset.2 (accept .reset g octets) := by
  by_cases hp : g.phase = .opened
  · simp only [accept, reset_opened hp]
    exact hI.reset h hp
  · simpa only [accept, reset_fixed hp] using h

theorem flush (h : I g octets) : Yields I g.flush octets := by
  rcases flush_cases g with hi | ⟨hp, hb⟩ | ⟨hp, hb⟩
  · rw [flush_idle hi]
    exact ⟨rfl, h⟩
  · rw [flush_opened hp hb]
    exact hI.commit h hp hb
  · rw [flush_committed hp hb]
    exact hI.emitBuffer h hp hb

/-- A write before the completion succeeds. -/
theorem write (h : I g octets) (hp : g.phase ≠ .completed) (data : Octets) :
    Yields I (g.write data) (accept (.write data) g octets) := by
  have hc : g.isComplete = false := by simpa [isComplete] using hp
  rcases write_cases g data with hg | ⟨_, ho⟩ | ⟨_, ho, hcap⟩ | ⟨_, ho, hcap⟩
  · exact absurd hg hp
  · rw [write_omitted hp ho]
    simpa [accept, ho, Yields] using h
  · have hf := hI.flush (hI.gather h hp ho data)
    rw [write_full hp ho hcap]
    simpa [accept, hc, ho] using hf
  · have ha := hI.gather h hp ho data
    rw [write_short hp ho hcap]
    simpa [accept, hc, ho, Yields] using ha

theorem write_accept (h : I g octets) (data : Octets) :
    I (g.write data).2 (accept (.write data) g octets) := by
  by_cases hp : g.phase = .completed
  · simpa [write_completed hp, accept, isComplete, hp] using h
  · exact (hI.write h hp data).2

/-- A byte-stream write is one write: the sink interrupts none. -/
theorem writeThrough_eq (h : I g octets) (data : Octets) (tries : Nat) :
    (g.writeThrough data tries).2 = (g.write data).2 := by
  by_cases hp : g.phase = .completed
  · cases tries <;> simp [writeThrough, write_completed hp, EngineError.toWriteError]
  · have hw := (hI.write h hp data).1
    rcases hr : g.write data with ⟨_ | _, k⟩
    · rw [hr] at hw
      cases hw
    · cases tries <;> simp [writeThrough, hr]

theorem streamWrite_accept (h : I g octets) (data : Octets) :
    I (g.streamWrite data).2 (accept (.streamWrite data) g octets) := by
  unfold Generator.streamWrite
  split
  · next he =>
    have hd : data = [] := by simpa using he
    simpa [accept, hd] using h
  · rw [hI.writeThrough_eq h]
    exact hI.write_accept h data

theorem complete_accept (h : I g octets) : Yields I g.complete octets := by
  by_cases hp : g.phase = .completed
  · simpa [Generator.complete, hp, Yields] using h
  · exact hI.complete h hp

theorem perform (h : I g octets) (op : ResponseOp)
    (ha : op.isAside = true → I (g.perform op).2 octets) :
    I (g.perform op).2 (accept op g octets) := by
  rcases op.kinds with hc | hd | hs | rfl
  · rw [perform_headChange hc, accept_headChange hc]
    exact hI.changeHead h _
  · cases op with
    | write data => exact hI.write_accept h data
    | streamWrite data => exact hI.streamWrite_accept h data
    | flush => exact (hI.flush h).2
    | streamFlush =>
      have hs : (g.perform .streamFlush).2 = g.flush.2 := Outcome.mapError_snd _ _
      rw [hs]
      exact (hI.flush h).2
    | complete => exact (hI.complete_accept h).2
    | _ => cases hd
  · rw [accept_aside hs]
    exact ha hs
  · exact hI.reset_accept h

theorem run (h : I g octets) (ops : List ResponseOp)
    (ha : ∀ op ∈ ops, op.isAside = true → ∀ k o, I k o → I (k.perform op).2 o) :
    I (run ops g) (accepted ops g octets) := by
  induction ops generalizing g octets with
  | nil => exact h
  | cons op ops ih =>
    have hop := hI.perform h op fun hs => ha op (by simp) hs _ _ h
    exact ih hop fun o ho => ha o (by simp [ho])

end Carries

end Generator

end FramedHttp
