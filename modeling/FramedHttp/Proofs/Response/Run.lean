import FramedHttp.Response.Generator

/-!
# What every run of a response keeps

An operation on a response changes its head or its buffer, or hands something to the sink and goes on as
the sink answers. A property that survives these few changes, whatever the sink answers, holds after every
run that starts with it.
-/

set_option autoImplicit false

namespace FramedHttp

/-- Operations that only describe the head of the response. -/
def ResponseOp.isHeadChange : ResponseOp → Bool
  | .status _ | .reason _ | .version _ | .header .. | .addHeader .. => true
  | _ => false

/-- Operations that gather body octets or hand something over. -/
def ResponseOp.isDelivery : ResponseOp → Bool
  | .write _ | .streamWrite _ | .flush | .streamFlush | .complete => true
  | _ => false

/-- Operations beside the response proper. -/
def ResponseOp.isAside : ResponseOp → Bool
  | .informational _ => true
  | .raw _ => true
  | _ => false

theorem ResponseOp.kinds (op : ResponseOp) :
    op.isHeadChange = true ∨ op.isDelivery = true ∨ op.isAside = true ∨ op = .reset := by
  cases op <;> simp [isHeadChange, isDelivery, isAside]

/-- What an operation makes of a head that may still change. A code that is no status changes nothing. -/
def ResponseOp.onHead (op : ResponseOp) (head : ResponseHead) : ResponseHead :=
  match op with
  | .status code =>
    match Status.ofCode code with
    | .ok s => { head with status := s }
    | .error _ => head
  | .reason text => { head with reason? := some text }
  | .version v => { head with version := v }
  | .header name value => { head with headers := head.headers.set name value }
  | .addHeader name value => { head with headers := head.headers.append name value }
  | _ => head

namespace Generator

variable {σ : Type}

theorem changeHead_opened {g : Generator σ} (h : g.phase = .opened) (f : ResponseHead → ResponseHead) :
    g.changeHead f = { g with head := f g.head } := by
  simp [changeHead, h]

theorem changeHead_fixed {g : Generator σ} (h : g.phase ≠ .opened) (f : ResponseHead → ResponseHead) :
    g.changeHead f = g := by
  cases hp : g.phase with
  | opened => exact absurd hp h
  | committed => simp [changeHead, hp]
  | completed => simp [changeHead, hp]

theorem reset_opened {g : Generator σ} (h : g.phase = .opened) :
    g.reset = (.ok (), { g with buffer := [], head := {} }) := by
  simp [reset, h]

theorem reset_fixed {g : Generator σ} (h : g.phase ≠ .opened) :
    g.reset = (.error (.illegalState .resetAfterCommit), g) := by
  cases hp : g.phase with
  | opened => exact absurd hp h
  | committed => simp [reset, hp]
  | completed => simp [reset, hp]

/-- How a write finds a response: completed, without a body, with the buffer full or not yet full by it. -/
theorem write_cases (g : Generator σ) (data : Octets) :
    g.phase = .completed ∨ g.phase ≠ .completed ∧ g.omitBody = true ∨
      g.phase ≠ .completed ∧ g.omitBody = false ∧ g.capacity ≤ (g.buffer ++ data).length ∨
      g.phase ≠ .completed ∧ g.omitBody = false ∧ ¬ g.capacity ≤ (g.buffer ++ data).length := by
  by_cases hp : g.phase = .completed
  · exact .inl hp
  · by_cases ho : g.omitBody = true
    · exact .inr (.inl ⟨hp, ho⟩)
    · have ho : g.omitBody = false := Bool.eq_false_iff.mpr ho
      by_cases hc : g.capacity ≤ (g.buffer ++ data).length
      · exact .inr (.inr (.inl ⟨hp, ho, hc⟩))
      · exact .inr (.inr (.inr ⟨hp, ho, hc⟩))

/-- How a flush finds a response: with nothing to hand over, before its commit or after it. -/
theorem flush_cases (g : Generator σ) : (g.buffer = [] ∨ g.phase = .completed) ∨
    g.phase = .opened ∧ g.buffer ≠ [] ∨ g.phase = .committed ∧ g.buffer ≠ [] := by
  by_cases hb : g.buffer = []
  · exact .inl (.inl hb)
  · cases hp : g.phase <;> simp [hb]

/-- How a completion finds a response: completed, before its commit, or after it with or without octets left. -/
theorem complete_cases (g : Generator σ) : g.phase = .completed ∨ g.phase = .opened ∨
    g.phase = .committed ∧ g.buffer = [] ∨ g.phase = .committed ∧ g.buffer ≠ [] := by
  by_cases hb : g.buffer = []
  · cases hp : g.phase <;> simp [hb]
  · cases hp : g.phase <;> simp [hb]

variable [Sink σ]

theorem write_completed {g : Generator σ} (h : g.phase = .completed) (data : Octets) :
    g.write data = (.error (.illegalState .writeAfterCompletion), g) := by
  simp [write, h]

theorem write_open {g : Generator σ} (h : g.phase ≠ .completed) (data : Octets) :
    g.write data = if g.omitBody then (.ok (), g) else g.gather data := by
  unfold write
  split
  · exact absurd ‹_› h
  · rfl

theorem write_omitted {g : Generator σ} (hp : g.phase ≠ .completed) (ho : g.omitBody = true) (data : Octets) :
    g.write data = (.ok (), g) := by
  rw [write_open hp, if_pos ho]

theorem write_full {g : Generator σ} {data : Octets} (hp : g.phase ≠ .completed) (ho : g.omitBody = false)
    (hc : g.capacity ≤ (g.buffer ++ data).length) :
    g.write data = { g with buffer := g.buffer ++ data }.flush := by
  rw [write_open hp, if_neg (by simp [ho])]
  exact if_pos hc

theorem write_short {g : Generator σ} {data : Octets} (hp : g.phase ≠ .completed) (ho : g.omitBody = false)
    (hc : ¬ g.capacity ≤ (g.buffer ++ data).length) :
    g.write data = (.ok (), { g with buffer := g.buffer ++ data }) := by
  rw [write_open hp, if_neg (by simp [ho])]
  exact if_neg hc

theorem flush_idle {g : Generator σ} (h : g.buffer = [] ∨ g.phase = .completed) : g.flush = (.ok (), g) := by
  rcases h with hb | hp
  · cases hp : g.phase <;> simp [flush, hp, hb]
  · simp [flush, hp]

theorem flush_opened {g : Generator σ} (hp : g.phase = .opened) (hb : g.buffer ≠ []) :
    g.flush = g.commit false := by
  simp [flush, hp, hb]

theorem flush_committed {g : Generator σ} (hp : g.phase = .committed) (hb : g.buffer ≠ []) :
    g.flush = g.emitBuffer false := by
  simp [flush, hp, hb]

/-- An emission that the sink takes is followed by the end of the response. -/
theorem emit_close {g : Generator σ} {e : Emission} (h : (Sink.emit e g.sink).1 = .ok ()) :
    (g.emit e).andThen close =
      { g with sink := (Sink.emit e g.sink).2, phase := .completed }.emit .finish := by
  have hg : g.emit e = (.ok (), { g with sink := (Sink.emit e g.sink).2 }) := by
    rw [← h]
    rfl
  rw [hg]
  rfl

/-- An emission that the sink does not take ends the call. -/
theorem emit_close_failed {g : Generator σ} {e : Emission} (h : (Sink.emit e g.sink).1 ≠ .ok ()) :
    (g.emit e).andThen close = g.emit e := by
  rcases hg : g.emit e with ⟨_ | _, k⟩
  · rfl
  · exact absurd (congrArg Prod.fst hg) h

theorem complete_opened {g : Generator σ} (h : g.phase = .opened) :
    g.complete = (g.commit true).andThen close := by
  simp [complete, h]

theorem complete_drained {g : Generator σ} (hp : g.phase = .committed) (hb : g.buffer = []) :
    g.complete = g.close := by
  simp [complete, hp, hb]

theorem complete_left {g : Generator σ} (hp : g.phase = .committed) (hb : g.buffer ≠ []) :
    g.complete = (g.emitBuffer true).andThen close := by
  simp [complete, hp, hb]

theorem complete_idle {g : Generator σ} (h : g.phase = .completed) : g.complete = (.ok (), g) := by
  simp [complete, h]

/-- What a call leaves, and leaves with the end of the response after it, the two in sequence leave. -/
theorem andThen_close_keeps {P : Generator σ → Prop} {r : Outcome EngineError (Generator σ)} (hr : P r.2)
    (hc : P r.2.close.2) : P (r.andThen close).2 :=
  Outcome.andThen_cases (P := fun r => P r.2) (fun _ _ => hr) fun _ => hc

/-- Where the end of the response is reached, the response is completed. -/
theorem andThen_close {r : Outcome EngineError (Generator σ)} (h : (r.andThen close).1 = .ok ()) :
    (r.andThen close).2.phase = .completed := by
  obtain ⟨_ | _, g⟩ := r
  · cases h
  · rfl

theorem perform_headChange {op : ResponseOp} (h : op.isHeadChange = true) (g : Generator σ) :
    (g.perform op).2 = g.changeHead op.onHead := by
  cases op with
  | status code =>
    have hid : g = g.changeHead fun head => head := by
      unfold changeHead
      split <;> rfl
    unfold ResponseOp.onHead
    simp only [perform, withStatus]
    cases Status.ofCode code with
    | ok s => rfl
    | error e => exact hid
  | reason | version | header | addHeader => rfl
  | _ => cases h

/-- An operation beside the response sends one thing, or nothing where it is refused. -/
theorem aside_cases {op : ResponseOp} (h : op.isAside = true) (g : Generator σ) :
    (g.perform op).2 = g ∨ ∃ e : Emission, e.kind? = none ∧ g.perform op = g.emit e := by
  cases op with
  | informational code =>
    simp only [perform, withStatus, informational]
    split
    · split
      · split
        · exact .inr ⟨_, rfl, rfl⟩
        · exact .inl rfl
      · exact .inl rfl
    · exact .inl rfl
  | raw octets => exact .inr ⟨.raw octets, rfl, rfl⟩
  | _ => cases h

/-- An interim response is sent from an open response only. -/
theorem informational_cases (code : Nat) (g : Generator σ) :
    (g.perform (.informational code)).2 = g ∨
      g.phase = .opened ∧ ∃ status, g.perform (.informational code) = g.emit (.informational status) := by
  simp only [perform, withStatus, informational]
  split
  · next status _ =>
    split
    · cases hp : g.phase with
      | opened => exact .inr ⟨rfl, status, rfl⟩
      | committed => exact .inl rfl
      | completed => exact .inl rfl
    · exact .inl rfl
  · exact .inl rfl

/-- What gathering octets and handing something over keeps of a response. -/
structure Delivers (P : Generator σ → Prop) : Prop where
  gather : ∀ {g : Generator σ}, P g → g.phase ≠ .completed → ∀ data,
    P { g with buffer := g.buffer ++ data }
  commit : ∀ {g : Generator σ}, P g → g.phase = .opened → ∀ last, P (g.commit last).2
  emitBuffer : ∀ {g : Generator σ}, P g → g.phase = .committed → ∀ last, P (g.emitBuffer last).2
  close : ∀ {g : Generator σ}, P g → g.phase = .committed → P g.close.2

namespace Delivers

variable {P : Generator σ → Prop} (hP : Delivers P) {g : Generator σ}
include hP

theorem flush (h : P g) : P g.flush.2 := by
  rcases flush_cases g with hi | ⟨hp, hb⟩ | ⟨hp, hb⟩
  · rwa [flush_idle hi]
  · rw [flush_opened hp hb]
    exact hP.commit h hp false
  · rw [flush_committed hp hb]
    exact hP.emitBuffer h hp false

theorem write (h : P g) (data : Octets) : P (g.write data).2 := by
  rcases write_cases g data with hp | ⟨hp, ho⟩ | ⟨hp, ho, hc⟩ | ⟨hp, ho, hc⟩
  · rwa [write_completed hp]
  · rwa [write_omitted hp ho]
  · rw [write_full hp ho hc]
    exact hP.flush (hP.gather h hp data)
  · rw [write_short hp ho hc]
    exact hP.gather h hp data

theorem writeThrough (h : P g) (data : Octets) (tries : Nat) : P (g.writeThrough data tries).2 := by
  induction tries generalizing g with
  | zero =>
    have hw := hP.write h data
    unfold Generator.writeThrough
    split <;> next hr => rwa [hr] at hw
  | succ tries ih =>
    have hw := hP.write h data
    rcases hr : g.write data with ⟨_ | _, k⟩ <;> rw [hr] at hw <;> simp only [Generator.writeThrough, hr]
    · split
      · exact ih hw
      · exact hw
    · exact hw

theorem complete (h : P g) : P g.complete.2 := by
  rcases complete_cases g with hp | hp | ⟨hp, hb⟩ | ⟨hp, hb⟩
  · rwa [complete_idle hp]
  · have hc := hP.commit h hp true
    rw [complete_opened hp]
    exact andThen_close_keeps hc (hP.close hc rfl)
  · rw [complete_drained hp hb]
    exact hP.close h hp
  · have hc := hP.emitBuffer h hp true
    rw [complete_left hp hb]
    exact andThen_close_keeps hc (hP.close hc hp)

theorem perform (h : P g) {op : ResponseOp} (hd : op.isDelivery = true) : P (g.perform op).2 := by
  cases op with
  | write data => exact hP.write h data
  | streamWrite data =>
    change P (g.streamWrite data).2
    unfold streamWrite
    split
    · exact h
    · exact hP.writeThrough h data _
  | flush => exact hP.flush h
  | streamFlush =>
    have hs : (g.perform .streamFlush).2 = g.flush.2 := Outcome.mapError_snd _ _
    rw [hs]
    exact hP.flush h
  | complete => exact hP.complete h
  | _ => cases hd

end Delivers

structure Persists (P : Generator σ → Prop) : Prop extends Delivers P where
  change : ∀ {g : Generator σ}, P g → g.phase = .opened → ∀ head, P { g with head := head }
  reset : ∀ {g : Generator σ}, P g → g.phase = .opened → P { g with buffer := [], head := {} }
  aside : ∀ {g : Generator σ}, P g → ∀ e : Emission, e.kind? = none → P (g.emit e).2

namespace Persists

variable {P : Generator σ → Prop} (hP : Persists P) {g : Generator σ}
include hP

theorem changeHead (h : P g) (f : ResponseHead → ResponseHead) : P (g.changeHead f) := by
  by_cases hp : g.phase = .opened
  · rw [changeHead_opened hp]
    exact hP.change h hp _
  · rwa [changeHead_fixed hp]

theorem resetAll (h : P g) : P g.reset.2 := by
  by_cases hp : g.phase = .opened
  · rw [reset_opened hp]
    exact hP.reset h hp
  · rwa [reset_fixed hp]

theorem perform (h : P g) (op : ResponseOp) : P (g.perform op).2 := by
  rcases op.kinds with hc | hd | ha | rfl
  · rw [perform_headChange hc]
    exact hP.changeHead h _
  · exact hP.toDelivers.perform h hd
  · rcases aside_cases ha g with hk | ⟨e, he, hk⟩
    · rwa [hk]
    · rw [hk]
      exact hP.aside h e he
  · exact hP.resetAll h

theorem run (h : P g) (ops : List ResponseOp) : P (run ops g) := by
  induction ops generalizing g with
  | nil => exact h
  | cons op ops ih => exact ih (hP.perform h op)

end Persists

/-- What every emission keeps of a sink, every run keeps. -/
theorem sink_persists {P : σ → Prop} (hP : ∀ {s : σ}, P s → ∀ e : Emission, P (Sink.emit e s).2) :
    Persists fun g : Generator σ => P g.sink where
  change h _ _ := h
  reset h _ := h
  gather h _ _ := h
  commit h _ _ := hP h _
  emitBuffer h _ _ := hP h _
  close h _ := hP h _
  aside h _ _ := hP h _

theorem omitBody_persists (b : Bool) : Persists fun g : Generator σ => g.omitBody = b where
  change h _ _ := h
  reset h _ := h
  gather h _ _ := h
  commit h _ _ := h
  emitBuffer h _ _ := h
  close h _ := h
  aside h _ _ := h

theorem run_omitBody (ops : List ResponseOp) (g : Generator σ) : (run ops g).omitBody = g.omitBody :=
  (omitBody_persists g.omitBody).run rfl ops

/-- Once completed, a response stays so. -/
theorem completed_persists : Persists fun g : Generator σ => g.phase = .completed where
  change h _ _ := h
  reset h _ := h
  gather h _ _ := h
  commit h hp _ := absurd (h.symm.trans hp) (by decide)
  emitBuffer h _ _ := h
  close _ _ := rfl
  aside h _ _ := h

theorem complete_completed {g : Generator σ} (h : g.complete.1 = .ok ()) :
    g.complete.2.phase = .completed := by
  rcases complete_cases g with hp | hp | ⟨hp, hb⟩ | ⟨hp, hb⟩
  · rwa [complete_idle hp]
  · rw [complete_opened hp] at h ⊢
    exact andThen_close h
  · rw [complete_drained hp hb]
    rfl
  · rw [complete_left hp hb] at h ⊢
    exact andThen_close h

end Generator

end FramedHttp
