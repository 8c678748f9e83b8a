import FramedHttp.Proofs.Response.Moves

/-!
# Accounts of a response

Where no write is interrupted, an operation of a byte stream is one call of the response, which reports a
failure as that of a write, or no call at all. `Accounts` collects what a relation between a response and the
octets that it has accepted must survive so that every run keeps it, whatever the sink answers. What a
completion does to the account is left to each use.
-/

set_option autoImplicit false

namespace FramedHttp

namespace ResponseOp

/-- The call that an operation makes of its response where nothing is interrupted. -/
def call? : ResponseOp → Option ResponseOp
  | .streamWrite data => if data.isEmpty then none else some (.write data)
  | .streamFlush => some .flush
  | op => some op

/-- How an operation reports that its call failed. -/
def report : ResponseOp → EngineError → EngineError
  | .streamWrite _ | .streamFlush => fun e => .io e.toWriteError
  | _ => fun e => e

theorem direct_call? {op c : ResponseOp} (h : op.call? = some c) : c.isDirect = true := by
  cases op with
  | streamWrite data =>
    simp only [call?] at h
    split at h
    · cases h
    · cases h
      rfl
  | _ =>
    cases h
    rfl

/-- A failed write is reported as it is. -/
theorem report_io (op : ResponseOp) (cause : IoError) : op.report (.io cause) = .io cause := by
  cases op <;> rfl

end ResponseOp

namespace Generator

variable {σ : Type} [Sink σ] {g : Generator σ}

theorem perform_call (hi : Sink.interruptions g.sink = 0) (op : ResponseOp) :
    g.perform op =
      match op.call? with
      | some c => (g.perform c).mapError op.report
      | none => (.ok (), g) := by
  cases op with
  | streamWrite data =>
    change g.streamWrite data = _
    unfold streamWrite ResponseOp.call?
    by_cases hd : data.isEmpty = true
    · simp only [hd, if_true]
    · simp only [hd, hi]
      rcases hr : g.write data with ⟨e | _, k⟩ <;>
        simp [writeThrough, perform, hr, Outcome.mapError, ResponseOp.report]
  | streamFlush => rfl
  | _ => exact (Outcome.mapError_self _).symm

omit [Sink σ] in
theorem accept_call (op : ResponseOp) (g : Generator σ) (octets : Octets) :
    accept op g octets =
      match op.call? with
      | some c => accept c g octets
      | none => octets := by
  cases op with
  | streamWrite data =>
    unfold ResponseOp.call?
    by_cases hd : data.isEmpty = true
    · simp [accept, List.isEmpty_iff.mp hd]
    · simp only [hd]
      rfl
  | _ => rfl

/-- A relation between a response and its accepted octets that its calls keep, the completion apart. -/
structure Accounts (I : Generator σ → Octets → Prop) : Prop where
  change : ∀ {g : Generator σ} {octets : Octets}, I g octets → g.phase = .opened →
    ∀ head, I { g with head := head } octets
  reset : ∀ {g : Generator σ} {octets : Octets}, I g octets → g.phase = .opened →
    I { g with buffer := [], head := {} } []
  gather : ∀ {g : Generator σ} {octets : Octets}, I g octets → g.phase ≠ .completed →
    g.omitBody = false → ∀ data, I { g with buffer := g.buffer ++ data } (octets ++ data)
  commit : ∀ {g : Generator σ} {octets : Octets}, I g octets → g.phase = .opened → g.buffer ≠ [] →
    I (g.commit false).2 octets
  emitBuffer : ∀ {g : Generator σ} {octets : Octets}, I g octets → g.phase = .committed →
    g.buffer ≠ [] → I (g.emitBuffer false).2 octets

namespace Accounts

variable {I : Generator σ → Octets → Prop} (hI : Accounts I) {octets : Octets}
include hI

theorem changeHead (h : I g octets) (f : ResponseHead → ResponseHead) : I (g.changeHead f) octets := by
  by_cases hp : g.phase = .opened
  · rw [changeHead_opened hp]
    exact hI.change h hp _
  · rwa [changeHead_fixed hp]

theorem reset_accept (h : I g octets) : I g.reset.2 (accept .reset g octets) := by
  by_cases hp : g.phase = .opened
  · simp only [accept, reset_opened hp]
    exact hI.reset h hp
  · simpa only [accept, reset_fixed hp] using h

theorem flush (h : I g octets) : I g.flush.2 octets := by
  rcases flush_cases g with hi | ⟨hp, hb⟩ | ⟨hp, hb⟩
  · rwa [flush_idle hi]
  · rw [flush_opened hp hb]
    exact hI.commit h hp hb
  · rw [flush_committed hp hb]
    exact hI.emitBuffer h hp hb

theorem write_accept (h : I g octets) (data : Octets) :
    I (g.write data).2 (accept (.write data) g octets) := by
  rcases write_cases g data with hp | ⟨hp, ho⟩ | ⟨hp, ho, hc⟩ | ⟨hp, ho, hc⟩
  · simpa [write_completed hp, accept, isComplete, hp] using h
  · simpa [write_omitted hp ho, accept, ho] using h
  · have hf := hI.flush (hI.gather h hp ho data)
    rw [write_full hp ho hc]
    simpa [accept, isComplete, hp, ho] using hf
  · have hg := hI.gather h hp ho data
    rw [write_short hp ho hc]
    simpa [accept, isComplete, hp, ho] using hg

/-- A call, where a completion and what is sent beside the response are known to keep the account. -/
theorem perform_direct (h : I g octets) {op : ResponseOp} (hd : op.isDirect = true)
    (hx : op.isAside = true ∨ op = .complete → I (g.perform op).2 octets) :
    I (g.perform op).2 (accept op g octets) := by
  rcases op.kinds with hc | hv | ha | rfl
  · rw [perform_headChange hc, accept_headChange hc]
    exact hI.changeHead h _
  · cases op with
    | write data => exact hI.write_accept h data
    | flush => exact hI.flush h
    | complete => exact hx (.inr rfl)
    | streamWrite | streamFlush => cases hd
    | _ => cases hv
  · rw [accept_aside ha]
    exact hx (.inl ha)
  · exact hI.reset_accept h

theorem perform (hi : Sink.interruptions g.sink = 0) (h : I g octets) (op : ResponseOp)
    (hx : op.isAside = true ∨ op = .complete → I (g.perform op).2 octets) :
    I (g.perform op).2 (accept op g octets) := by
  by_cases hd : op.isDirect = true
  · exact hI.perform_direct h hd hx
  · rw [perform_call hi, accept_call]
    cases hc : op.call? with
    | none => exact h
    | some c =>
      have hk : c.isAside = false ∧ c ≠ .complete := by
        cases op with
        | streamWrite data =>
          simp only [ResponseOp.call?] at hc
          split at hc
          · cases hc
          · cases hc
            exact ⟨rfl, nofun⟩
        | streamFlush =>
          cases hc
          exact ⟨rfl, nofun⟩
        | _ => exact absurd rfl hd
      have hp := hI.perform_direct h (ResponseOp.direct_call? hc) fun hx =>
        hx.elim (fun ha => absurd (ha.symm.trans hk.1) (by decide)) fun hcomplete => absurd hcomplete hk.2
      simpa only [Outcome.mapError_snd] using hp

theorem run (hi : ∀ s : σ, Sink.interruptions s = 0) (h : I g octets) {ops : List ResponseOp}
    (hx : ∀ op ∈ ops, op.isAside = true ∨ op = .complete → ∀ k o, I k o → I (k.perform op).2 o) :
    I (run ops g) (accepted ops g octets) := by
  induction ops generalizing g octets with
  | nil => exact h
  | cons op ops ih =>
    have hop := hI.perform (hi _) h op fun ho => hx op (by simp) ho _ _ h
    exact ih hop fun o ho => hx o (by simp [ho])

end Accounts

end Generator

end FramedHttp
