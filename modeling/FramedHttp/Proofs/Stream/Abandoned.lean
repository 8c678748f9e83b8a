import FramedHttp.Proofs.Stream.BodyEnd
import FramedHttp.Proofs.Stream.Telling

/-!
# Bodies that nobody reads

A body loses its last reader when it is given up, when the stream refuses the request, or when the engine
drops every chunk that it is told of. The one fragment that a channel holds must be free then for every frame
that still comes: a channel that was given up keeps nothing, a refused stream takes nothing, and a dropped
chunk is consumed as it is told.
-/

set_option autoImplicit false

namespace FramedHttp

open Content Content.Buffer

namespace Content.Buffer

/-- Octets were released from the front, or the body was given up. -/
def Used (b c : Buffer) : Prop :=
  Released b c ∨ c = b.discard

variable {b c : Buffer}

theorem used_nil (h : Used b c) (hb : b.fragment = []) : c.fragment = [] := by
  rcases h with h | rfl
  · exact released_nil h hb
  · rfl

theorem used_complete (h : Used b c) : c.complete = b.complete := by
  rcases h with h | rfl
  · exact released_complete h
  · rfl

/-- What was given up stays so. -/
theorem used_discarding (h : Used b c) (hb : b.discarding = true) : c.discarding = true := by
  rcases h with h | rfl
  · exact (released_discarding h).trans hb
  · rfl

end Content.Buffer

variable {ε : Type} [Engine ε]

/-- The engine touches the unread body only as a reader does: it consumes octets, or gives the body up. -/
def Engine.Uses (ε : Type) [Engine ε] : Prop :=
  ∀ (cb : Callback) (occasion : Occasion) (s : Seat ε), Used s.buffer (Engine.call cb occasion s).2.buffer

theorem Engine.uses_of_consumes (h : Engine.Consumes ε) : Engine.Uses ε :=
  fun cb occasion s => .inl (h cb occasion s)

theorem Engine.leaves_empty_of_uses (h : Engine.Uses ε) : Engine.LeavesEmpty ε :=
  fun cb occasion s => used_nil (h cb occasion s)

/-- Engines of this kind stay of this kind and consume every chunk as they are told of it. An engine may become
one of them at the end of the header section only. -/
structure Engine.Drops (D : ε → Prop) : Prop where
  kept : ∀ (cb : Callback) (occasion : Occasion) (s : Seat ε), D s.engine → D (Engine.call cb occasion s).2.engine
  whole : ∀ (occasion : Occasion) (s : Seat ε), D s.engine →
    (Engine.call (.chunk s.buffer.fragment) occasion s).2.buffer.fragment = []
  begins : ∀ (cb : Callback) (occasion : Occasion) (s : Seat ε), cb ≠ .headersComplete →
    D (Engine.call cb occasion s).2.engine → D s.engine

theorem Engine.drops_never : Engine.Drops fun _ : ε => False where
  kept _ _ _ h := h
  whole _ _ h := h.elim
  begins _ _ _ _ h := h

namespace Stream

/-- Nobody reads the body any more. -/
def Abandoned (D : ε → Prop) (s : Stream ε) : Prop :=
  s.rejected = true ∨ s.buffer.discarding = true ∨ D s.engine

/-- Where nobody reads the body, nothing is unread. -/
def Tidy (D : ε → Prop) (s : Stream ε) : Prop :=
  Timely s ∧ (Abandoned D s → s.buffer.fragment = [])

section Abandoned

variable {D : ε → Prop} (hε : Engine.Uses ε) (hD : Engine.Drops D) {s : Stream ε}
include hε

theorem invoke_used (cb : Callback) (s : Stream ε) : Used s.buffer (s.invoke cb).2.buffer := by
  rw [invoke_snd]
  exact hε cb { state := s.state, earlier := s.callbacks } s.seat

include hD

/-- Whoever stopped reading during a callback gave the body up, or had stopped before. -/
theorem invoke_tidy {cb : Callback} (hcb : cb ≠ .headersComplete) (hs : Abandoned D s → s.buffer.fragment = [])
    (ha : Abandoned D (s.invoke cb).2) : (s.invoke cb).2.buffer.fragment = [] := by
  rcases invoke_used hε cb s with hr | hd
  · have hb : Abandoned D s := by
      rcases ha with ha | ha | ha
      · exact .inl ((invoke_rejected cb s).symm.trans ha)
      · exact .inr (.inl ((released_discarding hr).symm.trans ha))
      · rw [invoke_snd] at ha
        exact .inr (.inr (hD.begins cb _ s.seat hcb ha))
    exact released_nil hr (hs hb)
  · rw [hd]
    rfl

/-- A chunk that nobody reads is gone once it was told. -/
theorem announceChunk_tidy (hr : s.rejected = false) (hg : s.buffer.discarding = true → s.buffer.fragment = [])
    (ha : Abandoned D s.announceChunk.2) : s.announceChunk.2.buffer.fragment = [] := by
  unfold announceChunk at ha ⊢
  split
  · next hd => exact isDrained_iff.mp hd
  · next hd =>
    rw [if_neg hd] at ha
    by_cases he : D s.engine
    · rw [invoke_snd]
      exact hD.whole _ s.seat he
    · apply invoke_tidy hε hD (by simp) _ ha
      rintro (hb | hb | hb)
      · exact absurd (hr.symm.trans hb) (by decide)
      · exact hg hb
      · exact absurd hb he

theorem tidy_kept : Kept (Tidy D) where
  settled h := h.1.1
  move {s t} h hm := by
    have ht : Timely t := (empty_timely (Engine.leaves_empty_of_uses hε)).move h.1 hm
    have hnil : ∀ (u : Stream ε) (cb : Callback), u.buffer.fragment = [] → (u.invoke cb).2.buffer.fragment = [] :=
      fun u cb => used_nil (invoke_used hε cb u)
    have hopen : s.state = .requestLine ∨ s.state = .headerFields → s.buffer.fragment = [] := by
      intro hi
      exact h.1.2.resolve_left (by rcases hi with hi | hi <;> simp [hi, Lifecycle.canBlock])
    have hinitial : s.state = .initial → s.buffer.fragment = [] := by
      intro hi
      exact h.1.2.resolve_left (by simp [hi, Lifecycle.canBlock])
    apply And.intro ht
    intro ha
    cases hm with
    | start hr hi => exact hnil _ _ (hinitial hi)
    | reject hr hi => exact hinitial hi
    | fields headers hr hi =>
      exact forwardFields_keeps (P := fun u => u.buffer.fragment = []) (fun f u => hnil u _) (hopen hi)
    | headersEnd hr hi => exact hnil _ _ (hopen hi)
    | @body data last b hr hi hb =>
      apply announceChunk_tidy hε hD (s := (s.withBuffer b).reach .body) hr _ ha
      intro hg
      obtain ⟨_, rfl⟩ := fill_ok_iff.mp hb
      exact if_pos hg
    | finish hr hi =>
      apply invoke_tidy hε hD (by simp) _ ha
      intro hb
      exact h.2 hb
  release {s} h n b hb := by
    apply And.intro ((empty_timely (Engine.leaves_empty_of_uses hε)).release h.1 hb)
    rintro (ha | ha | ha)
    · exact released_nil ⟨n, hb⟩ (h.2 (.inl ha))
    · exact released_nil ⟨n, hb⟩ (h.2 (.inr (.inl ((released_discarding ⟨n, hb⟩).symm.trans ha))))
    · exact released_nil ⟨n, hb⟩ (h.2 (.inr (.inr ha)))
  discard h := ⟨⟨h.1.1, .inr rfl⟩, fun _ => rfl⟩
  pull h := h
  terminate h := h

/-- Nobody comes back to a body. -/
theorem abandoned_kept : Kept fun s : Stream ε => s.pending = false ∧ Abandoned D s where
  settled h := h.1
  move {s t} h hm := by
    have hs : s.buffer.discarding = true ∨ D s.engine :=
      h.2.resolve_left (by simp [move_accepted hm])
    have ht : t.buffer.discarding = true ∨ D t.engine := by
      apply move_seat (R := fun seat => seat.buffer.discarding = true ∨ D seat.engine) _ _ _ _ hs hm
      · intro cb occasion seat hseat
        exact hseat.imp (used_discarding (hε cb occasion seat)) (hD.kept cb occasion seat)
      · intro seat data last b hseat hb
        obtain ⟨_, rfl⟩ := fill_ok_iff.mp hb
        exact hseat
      · intro seat hseat
        exact hseat
      · intro seat headers hseat
        exact hseat
    exact ⟨move_pending hm, .inr ht⟩
  release {s} h n b hb := by
    have hd := released_discarding ⟨n, hb⟩
    exact ⟨h.1, h.2.imp id (Or.imp (fun hg => hd.trans hg) id)⟩
  discard h := ⟨h.1, .inr (.inl rfl)⟩
  pull h := h
  terminate h := h

omit hD
variable {chunks : List Octets}

/-- The body was given up, nothing of it is left, and these chunks were told. -/
structure Silent (chunks : List Octets) (s : Stream ε) : Prop where
  settled : s.pending = false
  given : s.buffer.discarding = true
  empty : s.buffer.fragment = []
  told : s.callbacks.filterMap Callback.chunk? = chunks

theorem silent_invoke {cb : Callback} (hcb : cb.chunk? = none) (h : Silent chunks s) :
    Silent chunks (s.invoke cb).2 where
  settled := by simpa using h.settled
  given := used_discarding (invoke_used hε cb s) h.given
  empty := used_nil (invoke_used hε cb s) h.empty
  told := by simpa [hcb] using h.told

/-- Of a body that was given up no chunk is told any more. -/
theorem silent_kept : Kept (Silent (ε := ε) chunks) where
  settled h := h.settled
  move {s t} h hm := by
    cases hm with
    | start => exact silent_invoke hε rfl ⟨rfl, h.given, h.empty, h.told⟩
    | reject => exact ⟨rfl, h.given, h.empty, h.told⟩
    | fields headers =>
      apply forwardFields_keeps (P := Silent chunks)
      · intro f u hu
        exact silent_invoke hε rfl hu
      · exact ⟨rfl, h.given, h.empty, h.told⟩
    | headersEnd => exact silent_invoke hε rfl ⟨rfl, h.given, h.empty, h.told⟩
    | @body data last b hr hi hb =>
      obtain ⟨_, rfl⟩ := fill_ok_iff.mp hb
      have hd : (if s.buffer.discarding then [] else data) = [] := if_pos h.given
      rw [announceChunk, if_pos (isDrained_iff.mpr hd)]
      exact ⟨rfl, h.given, hd, h.told⟩
    | finish => exact silent_invoke hε rfl ⟨rfl, h.given, h.empty, h.told⟩
  release {s} h n b hb := ⟨h.settled, (released_discarding ⟨n, hb⟩).trans h.given, released_nil ⟨n, hb⟩ h.empty, h.told⟩
  discard h := ⟨h.settled, rfl, rfl, h.told⟩
  pull h := ⟨h.settled, h.given, h.empty, h.told⟩
  terminate h := ⟨h.settled, h.given, h.empty, h.told⟩

end Abandoned

section Arrivals

variable (hε : Engine.Uses ε) {s : Stream ε}

omit [Engine ε] in
theorem not_overlaps_of_engine_only {r : Outcome StreamError (Stream ε)} (h : r.EngineOnly) : ¬ Overlaps r := by
  rintro ⟨state, he⟩
  obtain ⟨_, hc⟩ := h _ he
  cases hc

include hε

theorem onHeadersEnd_empty (hs : s.buffer.fragment = []) :
    ¬ Overlaps s.onHeadersEnd ∧ s.onHeadersEnd.2.buffer.fragment = [] := by
  have hi : ¬ Overlaps ((s.reach .headersComplete).invoke .headersComplete) ∧
      ((s.reach .headersComplete).invoke .headersComplete).2.buffer.fragment = [] :=
    ⟨not_overlaps_of_engine_only (invoke_engine_only _ _), used_nil (invoke_used hε _ (s.reach .headersComplete)) hs⟩
  unfold onHeadersEnd unlessRejected
  split
  · exact ⟨by rintro ⟨_, ⟨⟩⟩, hs⟩
  · dsimp only
    split
    · exact ⟨by rintro ⟨_, ⟨⟩⟩, hs⟩
    · rwa [run_enter (by decide)]
    · rwa [run_enter (by decide)]
    · exact ⟨by rintro ⟨_, ⟨⟩⟩, hs⟩

/-- With nothing unread no body frame is refused for octets unread. -/
theorem not_overlaps_of_empty (hs : s.buffer.fragment = []) (data : Octets) (last : Bool) :
    ¬ Overlaps (s.onBody data last) := by
  have htake : ∀ t : Stream ε, t.buffer.fragment = [] → ¬ Overlaps (takeBody data last t) := by
    intro t ht
    unfold takeBody
    split
    · cases hf : t.buffer.fill data last with
      | error n => exact absurd ht (fill_error_iff.mp ⟨n, hf⟩)
      | ok b =>
        dsimp only
        rw [run_enter (by decide)]
        exact not_overlaps_of_engine_only (announceChunk_engine_only _)
    · rintro ⟨_, ⟨⟩⟩
  obtain ⟨hend, hempty⟩ := onHeadersEnd_empty hε hs
  rw [onBody, unlessRejected]
  split
  · rintro ⟨_, ⟨⟩⟩
  · apply Outcome.andThen_cases (P := fun r => ¬ Overlaps r)
    · rintro e he ⟨state, ho⟩
      exact hend ⟨state, he.trans ho⟩
    · intro _
      unfold unlessRejected
      split
      · rintro ⟨_, ⟨⟩⟩
      · exact htake _ hempty

/-- Where nobody reads the body, the channel is free for the next frame. -/
theorem free_of_abandoned {D : ε → Prop} (ht : Tidy D s) (ha : Abandoned D s) :
    s.buffer.isDrained = true ∧ ∀ data last, ¬ Overlaps (s.onBody data last) :=
  ⟨isDrained_iff.mpr (ht.2 ha), not_overlaps_of_empty hε (ht.2 ha)⟩

end Arrivals

omit [Engine ε] in
theorem tidy_new (D : ε → Prop) (settings : Settings) (link : Link) (engine : ε) :
    Tidy D (new settings link engine) :=
  ⟨⟨rfl, .inr rfl⟩, fun _ => rfl⟩

end Stream

open FramedHttp.Stream

namespace Session

omit [Engine ε] in
theorem look_content {x : Session ε} {octets : Octets} (h : x.look = .content octets) :
    x.buffer.fragment ≠ [] := by
  intro hn
  rw [look, if_pos (isDrained_iff.mpr hn)] at h
  split at h
  · split at h <;> cases h
  · cases h

/-- Where nothing is ever unread, nobody who waits gets octets. -/
theorem blockDuring_nothing {P : Stream ε → Prop} (hP : Kept P) (hempty : ∀ {s : Stream ε}, P s → s.buffer.fragment = [])
    {arrive : Session ε → Session ε} (harrive : ∀ {x : Session ε}, P x.stream → P (arrive x).stream)
    {x : Session ε} (hx : P x.stream) (maxIdle : Duration) (octets : Octets) :
    (x.blockDuring arrive maxIdle).1 ≠ .ok (some octets) := by
  intro h
  obtain ⟨hl, ht⟩ := blockDuring_ok h
  have ha : P (x.await false).2.stream := by
    rw [await_replay]
    exact hP.replay hx _
  have hb : P (x.blockDuring arrive maxIdle).2.stream := by
    rcases ht with ht | ht
    · rw [ht]
      exact ha
    · rw [ht]
      exact harrive ha
  exact look_content hl (hempty hb)

end Session

end FramedHttp
