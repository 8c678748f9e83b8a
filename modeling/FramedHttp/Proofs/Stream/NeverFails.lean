import FramedHttp.Proofs.Stream.Telling

/-!
# Engines that never fail

An engine may be known never to fail, whatever it is told. Then no call fails on its account, unless a call
has other reasons to fail.
-/

set_option autoImplicit false

namespace FramedHttp

open Content

/-- Engines of this kind never fail, and stay of this kind. -/
structure Engine.NeverFails {ε : Type} [Engine ε] (Q : ε → Prop) : Prop where
  ok : ∀ (cb : Callback) (occasion : Occasion) (s : Seat ε), Q s.engine → (Engine.call cb occasion s).1 = .ok ()
  kept : ∀ (cb : Callback) (occasion : Occasion) (s : Seat ε), Q s.engine →
    Q (Engine.call cb occasion s).2.engine

theorem Recorder.never_fails : Engine.NeverFails fun r : Recorder => r.faults = [] where
  ok cb occasion s h := by simp [Engine.call, call, h]
  kept cb occasion s h := by simp [Engine.call, call, h]

namespace Stream

variable {ε : Type} [Engine ε]

/-- No callback failed, and the engine is still of its kind. -/
structure Calm (Q : ε → Prop) (r : Outcome StreamError (Stream ε)) : Prop where
  unfailing : ∀ cause, r.1 ≠ .error (.http cause)
  kept : Q r.2.engine

section Calm

variable {Q : ε → Prop} {s : Stream ε}

omit [Engine ε] in
theorem calm_ok (hs : Q s.engine) : Calm Q (.ok (), s) :=
  ⟨nofun, hs⟩

omit [Engine ε] in
theorem calm_refuse (hs : Q s.engine) (operation : Refused) : Calm Q (s.refuse operation) :=
  ⟨nofun, hs⟩

omit [Engine ε] in
theorem calm_andThen {r : Outcome StreamError (Stream ε)} {next : Stream ε → Outcome StreamError (Stream ε)}
    (hr : Calm Q r) (hn : ∀ s, Q s.engine → Calm Q (next s)) : Calm Q (r.andThen next) :=
  Outcome.andThen_cases (P := Calm Q) (fun _ he => ⟨he ▸ hr.unfailing, hr.kept⟩) fun _ => hn r.2 hr.kept

omit [Engine ε] in
theorem calm_unlessRejected {next : Stream ε → Outcome StreamError (Stream ε)} (hs : Q s.engine)
    (hn : Calm Q (next s)) : Calm Q (s.unlessRejected next) := by
  unfold unlessRejected
  split
  · exact calm_ok hs
  · exact hn

variable (hQ : Engine.NeverFails Q)
include hQ

theorem calm_invoke (s : Stream ε) (hs : Q s.engine) (cb : Callback) : Calm Q (s.invoke cb) := by
  have hr := hQ.ok cb { state := s.state, earlier := s.callbacks } s.seat hs
  have hk := hQ.kept cb { state := s.state, earlier := s.callbacks } s.seat hs
  constructor
  · intro cause he
    rw [invoke_ok hr] at he
    cases he
  · rw [invoke_snd]
    exact hk

theorem calm_invokeAll (s : Stream ε) (hs : Q s.engine) (cbs : List Callback) : Calm Q (invokeAll cbs s) := by
  induction cbs generalizing s with
  | nil => exact calm_ok hs
  | cons cb cbs ih => exact calm_andThen (calm_invoke hQ s hs cb) ih

theorem calm_forwardFields (s : Stream ε) (hs : Q s.engine) : Calm Q s.forwardFields := by
  unfold forwardFields
  split
  · exact calm_ok hs
  · exact calm_invokeAll hQ { s with metadata := none } hs _

theorem calm_onHeadersEnd (hs : Q s.engine) : Calm Q s.onHeadersEnd := by
  apply calm_unlessRejected hs
  split
  · exact calm_refuse hs _
  · rw [run_enter (by decide)]
    exact calm_invoke hQ (s.reach .headersComplete) hs _
  · rw [run_enter (by decide)]
    exact calm_invoke hQ (s.reach .headersComplete) hs _
  · exact calm_ok hs

theorem calm_takeBody (hs : Q s.engine) (data : Octets) (last : Bool) : Calm Q (takeBody data last s) := by
  unfold takeBody
  split
  · split
    · next b _ =>
      rw [run_enter (by decide)]
      change Calm Q ((s.withBuffer b).reach .body).announceChunk
      unfold announceChunk
      split
      · exact calm_ok hs
      · exact calm_invoke hQ ((s.withBuffer b).reach .body) hs _
    · exact calm_refuse hs _
  · exact calm_refuse hs _

theorem calm_onEnd (hs : Q s.engine) : Calm Q s.onEnd := by
  apply calm_unlessRejected hs
  split
  · exact calm_ok hs
  · exact calm_refuse hs _
  · exact calm_refuse hs _
  · apply calm_andThen (calm_onHeadersEnd hQ hs)
    intro t ht
    apply calm_unlessRejected ht
    rw [takeEnd, run_enter (by decide)]
    exact calm_invoke hQ ((t.withBuffer t.buffer.markComplete).reach .final) ht _

theorem calm_onMetadata (hs : Q s.engine) {headers : Headers}
    (hl : s.state = .initial → headers.isEmpty = false → ∃ line, RequestLine.ofHeaders headers = .ok line) :
    Calm Q (s.onMetadata headers) := by
  apply calm_unlessRejected hs
  split
  · next hi =>
    split
    · exact calm_ok hs
    · next hne =>
      obtain ⟨line, hline⟩ := hl hi (Bool.eq_false_iff.mpr hne)
      rw [run_complete s hline]
      apply calm_andThen (calm_invoke hQ (s.opening headers) hs _)
      intro t ht
      exact calm_forwardFields hQ (t.reach .headerFields) ht
  · rw [run_enter (by decide)]
    exact calm_forwardFields hQ ({ s with metadata := some headers }.reach .headerFields) hs
  · rw [run_enter (by decide)]
    exact calm_forwardFields hQ ({ s with metadata := some headers }.reach .headerFields) hs
  · exact calm_refuse hs _

/-- A frame that does not bring an incomplete request line. -/
theorem calm_receive (hs : Q s.engine) {frame : InFrame}
    (hl : s.state = .initial → ∀ headers, frame = .metadata headers → headers.isEmpty = false →
      ∃ line, RequestLine.ofHeaders headers = .ok line) : Calm Q (s.receive frame) := by
  cases frame with
  | metadata headers => exact calm_onMetadata hQ hs fun hi => hl hi headers rfl
  | headersEnd => exact calm_onHeadersEnd hQ hs
  | body data last =>
    apply calm_unlessRejected hs
    apply calm_andThen (calm_onHeadersEnd hQ hs)
    intro t ht
    exact calm_unlessRejected ht (calm_takeBody hQ ht data last)
  | streamEnd => exact calm_onEnd hQ hs

omit hQ in
theorem calm_call (hs : Q s.engine) (hp : s.pending = false) {c : StreamCall}
    (hc : ∀ frame, c = .receive frame → Calm Q (s.receive frame)) : Q (s.call c).2.engine := by
  cases c with
  | receive frame => exact (hc frame rfl).kept
  | dispatch => simpa only [call, dispatch_settled s hp] using hs
  | release n =>
    simp only [call, release]
    split <;> exact hs
  | discard => exact hs
  | pull => exact hs
  | terminate => exact hs

theorem underway_unfailing {translator : Translator} (hs : Underway translator s) (he : Q s.engine)
    (calls : List StreamCall) : Unfailing calls s := by
  induction calls generalizing s with
  | nil => trivial
  | cons c calls ih =>
    have hc : ∀ frame, c = .receive frame → Calm Q (s.receive frame) :=
      fun frame _ => calm_receive hQ he fun hi => absurd hi hs.begun
    exact ⟨fun frame h => (hc frame h).unfailing,
      ih ((underway_kept translator).call hs c) (calm_call he hs.settled hc)⟩

end Calm

end Stream

end FramedHttp
