import FramedHttp.Proofs.Frame.Losses

/-!
# Octets that were confirmed

A write that succeeds confirms its octets. An emission that succeeds puts its octets on the link, one that
fails puts none of them there. So whichever sends fail, the octets on the link are among the confirmed ones,
in the order of the writes.
-/

set_option autoImplicit false

namespace FramedHttp

/-- The octets of an emission that was answered like this. -/
def Emission.taken (e : Emission) (answer : Except EngineError Unit) : Octets :=
  match answer with
  | .ok _ => e.octets
  | .error _ => []

theorem Emission.taken_sublist (e : Emission) (answer : Except EngineError Unit) :
    (e.taken answer).Sublist e.octets := by
  cases answer with
  | ok => exact List.Sublist.refl _
  | error => exact List.nil_sublist _

namespace ReplyState

variable {x : ReplyState × Link}

theorem payload_snoc (frames : List OutFrame) (f : OutFrame) : payload (frames ++ [f]) = payload frames ++ f.payload := by
  simp [payload]

theorem data_payload (octets : Octets) (close : Bool) :
    payload (data octets close x).2.2.sent =
      payload x.2.sent ++ (Emission.body octets close).taken (data octets close x).1 := by
  cases hr : x.2.outcome .data x.2.dataFrames with
  | error e => simp [data, Link.sendData, Link.deliver, hr, Emission.taken]
  | ok => simp [data, Link.sendData, Link.deliver, hr, Emission.taken, Emission.octets, payload_snoc, OutFrame.payload]

/-- What an emission puts on the link. -/
theorem emit_payload (e : Emission) (x : ReplyState × Link) :
    payload (emit e x).2.2.sent = payload x.2.sent ++ e.taken (emit e x).1 := by
  have hs := emit_sending e x
  generalize emit e x = r at hs ⊢
  cases hs with
  | @nothing _ answer h =>
    have ht : e.taken answer = [] := by
      cases answer with
      | error => rfl
      | ok => exact h rfl
    simp [ht]
  | @data _ octets close he =>
    have ht : (Emission.body octets close).taken (data octets close x).1 = e.taken (data octets close x).1 := by
      cases (data octets close x).1 with
      | error => rfl
      | ok => exact he.symm
    rw [data_payload, ht]
  | lost => simp [Emission.taken]
  | bare => simp [payload_snoc, OutFrame.payload, Emission.taken, Emission.octets]
  | opened =>
    rw [data_payload, payload_snoc, OutFrame.payload, List.append_nil]
    rfl

end ReplyState

namespace Generator

open ReplyState

section Confirmed

variable {σ : Type} [Sink σ]

/-- The confirmed octets after a call: a write counts once it succeeds. -/
def confirm (op : ResponseOp) (g : Generator σ) (octets : Octets) : Octets :=
  match op with
  | .write data =>
    match (g.write data).1 with
    | .ok _ => if g.omitBody then octets else octets ++ data
    | .error _ => octets
  | _ => accept op g octets

/-- The octets of the writes that succeeded, since the last reset that did. -/
def confirmed : List ResponseOp → Generator σ → Octets → Octets
  | [], _, octets => octets
  | op :: ops, g, octets => confirmed ops (g.perform op).2 (confirm op g octets)

variable {g : Generator σ}

theorem confirm_write {data : Octets} (h : (g.write data).1 = .ok ()) (hc : g.isComplete = false)
    (octets : Octets) : confirm (.write data) g octets = accept (.write data) g octets := by
  simp only [confirm, accept, h, hc, Bool.false_or]

theorem confirm_completed (h : g.phase = .completed) (data octets : Octets) :
    confirm (.write data) g octets = accept (.write data) g octets := by
  simp [confirm, accept, write_completed h, isComplete, h]

end Confirmed

section Delivered

/-- Some of these octets were handed over, and of them a part is on the link, in their order; the others
are buffered. -/
def Delivered (g : Generator (ReplyState × Link)) (octets : Octets) : Prop :=
  ∃ handed, handed ++ g.buffer = octets ∧ (payload g.sink.2.sent).Sublist handed ∧ (g.phase = .opened → handed = [])

variable {g : Generator (ReplyState × Link)} {octets : Octets}

/-- The buffer is handed over, and perhaps gets through. -/
theorem delivered_emit (h : Delivered g octets) {p : Phase} (hp : p ≠ .opened) {e : Emission}
    (he : e.octets = g.buffer) : Delivered ({ g with buffer := [], phase := p }.emit e).2 octets := by
  obtain ⟨handed, hb, hs, _⟩ := h
  have hl : payload (ReplyState.emit e g.sink).2.2.sent = payload g.sink.2.sent ++ e.taken (ReplyState.emit e g.sink).1 :=
    emit_payload e g.sink
  have ht : (e.taken (ReplyState.emit e g.sink).1).Sublist g.buffer := he ▸ e.taken_sublist _
  refine ⟨octets, List.append_nil _, ?_, fun ho => absurd ho hp⟩
  change (payload (ReplyState.emit e g.sink).2.2.sent).Sublist octets
  rw [hl, ← hb]
  exact hs.append ht

/-- Octets that came to the buffer and were lost with it are not missed. -/
theorem delivered_failed (h : Delivered g octets) {p : Phase} (hp : p ≠ .opened) {e : Emission}
    {err : EngineError} (he : (ReplyState.emit e g.sink).1 = .error err) :
    Delivered ({ g with buffer := [], phase := p }.emit e).2 octets := by
  obtain ⟨handed, hb, hs, _⟩ := h
  have hl : payload (ReplyState.emit e g.sink).2.2.sent = payload g.sink.2.sent := by
    rw [emit_payload, he]
    exact List.append_nil _
  refine ⟨octets, List.append_nil _, ?_, fun ho => absurd ho hp⟩
  change (payload (ReplyState.emit e g.sink).2.2.sent).Sublist octets
  rw [hl, ← hb]
  exact hs.trans (List.sublist_append_left _ _)

/-- What carries no octets leaves the account as it is. -/
theorem delivered_bare (h : Delivered g octets) {e : Emission} (he : e.octets = []) :
    Delivered (g.emit e).2 octets := by
  obtain ⟨handed, hb, hs, hn⟩ := h
  have ht : e.taken (ReplyState.emit e g.sink).1 = [] := List.sublist_nil.mp (he ▸ e.taken_sublist _)
  have hl : payload (ReplyState.emit e g.sink).2.2.sent = payload g.sink.2.sent := by
    rw [emit_payload, ht, List.append_nil]
  refine ⟨handed, hb, ?_, hn⟩
  change (payload (ReplyState.emit e g.sink).2.2.sent).Sublist handed
  rw [hl]
  exact hs

theorem delivered_move {x y : Generator (ReplyState × Link) × Octets} (hm : Move x y) (h : Delivered x.1 x.2) :
    Delivered y.1 y.2 := by
  cases hm with
  | change hp head => exact h
  | reset hp =>
    obtain ⟨handed, _, hs, hn⟩ := h
    rw [hn hp] at hs
    exact ⟨[], rfl, hs, fun _ => rfl⟩
  | gather hp ho data =>
    obtain ⟨handed, hb, hs, hn⟩ := h
    exact ⟨handed, by rw [← List.append_assoc]; exact congrArg (· ++ data) hb, hs, hn⟩
  | commit hp last hb => exact delivered_emit h (p := .committed) nofun rfl
  | @emitBuffer g octets hp hb last => exact delivered_emit h (p := g.phase) (by simp [hp]) rfl
  | @close g octets hp hb =>
    obtain ⟨handed, hb, hs, _⟩ := h
    have hc : Delivered { g with phase := .completed } octets := ⟨handed, hb, hs, nofun⟩
    exact delivered_bare hc rfl
  | aside e he =>
    apply delivered_bare h
    cases e with
    | headers => cases he
    | body => cases he
    | _ => rfl

theorem delivered_moves {x y : Generator (ReplyState × Link) × Octets} (hm : Moves x y) (h : Delivered x.1 x.2) :
    Delivered y.1 y.2 := by
  induction hm with
  | refl => exact h
  | tail _ hm ih => exact delivered_move hm ih

theorem flush_failed (h : Delivered g octets) {data : Octets} {err : EngineError}
    (hf : ({ g with buffer := g.buffer ++ data }.flush).1 = .error err) :
    Delivered ({ g with buffer := g.buffer ++ data }.flush).2 octets := by
  rcases flush_cases { g with buffer := g.buffer ++ data } with hi | ⟨hp, hb⟩ | ⟨hp, hb⟩
  · rw [flush_idle hi] at hf
    cases hf
  · rw [flush_opened hp hb] at hf ⊢
    exact delivered_failed h (p := .committed) nofun hf
  · rw [flush_committed hp hb] at hf ⊢
    exact delivered_failed h (p := g.phase) (hp ▸ nofun) hf

/-- The octets of a write that fails are not missed. -/
theorem write_failed (h : Delivered g octets) (hp : g.phase ≠ .completed) {data : Octets} {err : EngineError}
    (hf : (g.write data).1 = .error err) : Delivered (g.write data).2 octets := by
  rcases write_cases g data with hg | ⟨_, ho⟩ | ⟨_, ho, hc⟩ | ⟨_, ho, hc⟩
  · exact absurd hg hp
  · rw [write_omitted hp ho] at hf
    cases hf
  · rw [write_full hp ho hc] at hf ⊢
    exact flush_failed h hf
  · rw [write_short hp ho hc] at hf
    cases hf

theorem perform_delivered {op : ResponseOp} (hd : op.isDirect = true) (h : Delivered g octets) :
    Delivered (g.perform op).2 (confirm op g octets) := by
  have hm : Delivered (g.perform op).2 (accept op g octets) := delivered_moves (perform_moves hd g octets) h
  cases op with
  | write data =>
    by_cases hp : g.phase = .completed
    · rw [confirm_completed hp]
      exact hm
    · cases hr : (g.write data).1 with
      | ok =>
        rw [confirm_write hr (by simpa [isComplete] using hp)]
        exact hm
      | error err =>
        simp only [confirm, hr]
        exact write_failed h hp hr
  | _ => exact hm

/-- Over a run of calls. -/
theorem run_delivered {calls : List ResponseOp} (hd : ∀ c ∈ calls, c.isDirect = true) (h : Delivered g octets) :
    Delivered (run calls g) (confirmed calls g octets) := by
  induction calls generalizing g octets with
  | nil => exact h
  | cons c calls ih => exact ih (fun o ho => hd o (by simp [ho])) (perform_delivered (hd c (by simp)) h)

theorem delivered_payload (h : Delivered g octets) : (payload g.sink.2.sent).Sublist octets := by
  obtain ⟨handed, hb, hs, _⟩ := h
  rw [← hb]
  exact hs.trans (List.sublist_append_left _ _)

end Delivered

end Generator

end FramedHttp
