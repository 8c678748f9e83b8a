import FramedHttp.Proofs.Stream.CallbackOrder

/-!
# Engines that listen

An engine listens to a sequence of callbacks if it succeeds with every one of them, leaves the unread octets
to others and does not decide where its link fails. What it does besides, to itself and over its link, and
what it would do out of turn, is left open.
-/

set_option autoImplicit false

namespace FramedHttp

open Content

namespace Callback

/-- The stage in which a callback comes. -/
def stage : Callback → Lifecycle
  | .start .. => .requestLine
  | .field .. => .headerFields
  | .headersComplete => .headersComplete
  | .chunk _ => .body
  | .complete _ => .final

/-- The buffer is as a callback finds it: untouched before the body, with the whole chunk unread, and in the
end complete, however much is still unread. -/
def Finds (cb : Callback) (b : Buffer) : Prop :=
  match cb with
  | .chunk octets => b.fragment = octets
  | .complete _ => b.complete = true
  | _ => b = {}

end Callback

variable {ε : Type} [Engine ε]

/-- The engine listens to what is still to come, after what came earlier. -/
def Engine.Listens (faults : List (Fault LinkCall StreamError)) : List Callback → List Callback → ε → Prop
  | _, [], _ => True
  | earlier, cb :: cbs, e =>
    ∀ (b : Buffer) (l : Link), cb.Finds b → l.faults = faults →
      let r := Engine.call cb { state := cb.stage, earlier := earlier } { engine := e, buffer := b, link := l }
      r.1 = .ok () ∧ r.2.buffer = b ∧ r.2.link.faults = faults ∧ Listens faults (earlier ++ [cb]) cbs r.2.engine

namespace Stream

/-- The engine of the stream listens to what is still to come. -/
structure Listening (faults : List (Fault LinkCall StreamError)) (cbs : List Callback) (s : Stream ε) : Prop where
  accepted : s.rejected = false
  link : s.link.faults = faults
  engine : Engine.Listens faults s.callbacks cbs s.engine

variable {faults : List (Fault LinkCall StreamError)} {cbs : List Callback} {s : Stream ε}

theorem Listening.reach (h : Listening faults cbs s) (state : Lifecycle) :
    Listening faults cbs (s.reach state) :=
  ⟨h.accepted, h.link, h.engine⟩

theorem Listening.withBuffer (h : Listening faults cbs s) (b : Buffer) : Listening faults cbs (s.withBuffer b) :=
  ⟨h.accepted, h.link, h.engine⟩

theorem listening_invoke {cb : Callback} (h : Listening faults (cb :: cbs) s) (hs : s.state = cb.stage)
    (hb : cb.Finds s.buffer) :
    s.invoke cb = (.ok (), (s.invoke cb).2) ∧ Listening faults cbs (s.invoke cb).2 ∧
      (s.invoke cb).2.buffer = s.buffer := by
  obtain ⟨hok, hbuffer, hfaults, hrest⟩ := h.engine s.buffer s.link hb h.link
  rw [← hs] at hok hbuffer hfaults hrest
  constructor
  · exact invoke_ok hok
  rw [invoke_snd]
  exact ⟨⟨h.accepted, hfaults, hrest⟩, hbuffer⟩

/-- The fields of the header section. -/
theorem listening_fields {fields : List Field}
    (h : Listening faults (fields.map (fun f => .field f.name f.value) ++ cbs) s) (hs : s.state = .headerFields)
    (hb : s.buffer = {}) :
    ∃ t, invokeAll (fields.map fun f => .field f.name f.value) s = (.ok (), t) ∧ Listening faults cbs t ∧
      t.state = .headerFields ∧ t.buffer = {} := by
  induction fields generalizing s with
  | nil => exact ⟨s, rfl, h, hs, hb⟩
  | cons f fields ih =>
    obtain ⟨hok, hl, hbuffer⟩ := listening_invoke h hs hb
    obtain ⟨t, ht, hrest⟩ := ih hl ((invoke_state _ s).trans hs) (hbuffer.trans hb)
    have hall : invokeAll ((f :: fields).map fun f => .field f.name f.value) s = (.ok (), t) := by
      rw [List.map_cons, invokeAll, hok]
      exact ht
    exact ⟨t, hall, hrest⟩

/-- The first metadata starts the request and opens its header section. -/
theorem listening_first {first : Headers} {line : RequestLine} (hl : RequestLine.ofHeaders first = .ok line)
    (h : Listening faults
      (Callback.head line.method line.target line.version (s.translator.translate first) ++ cbs) s)
    (hi : s.state = .initial) (hb : s.buffer = {}) :
    ∃ t, s.onMetadata first = (.ok (), t) ∧ Listening faults cbs t ∧ t.state = .headerFields ∧ t.buffer = {} := by
  have hopening : Listening faults (.start line.method line.target line.version ::
      (s.translator.translate first).map (fun f => .field f.name f.value) ++ cbs) (s.opening first) :=
    ⟨h.accepted, h.link, h.engine⟩
  obtain ⟨hok, hstarted, hbuffer⟩ := listening_invoke hopening rfl hb
  rw [onMetadata_first h.accepted hi (RequestLine.nonempty_of_ok hl), run_complete s hl, hok, Outcome.andThen_ok]
  have hm : (((s.opening first).invoke (.start line.method line.target line.version)).2.reach .headerFields).metadata =
      some first := by simp [opening]
  have hhost : (((s.opening first).invoke (.start line.method line.target line.version)).2.reach
      .headerFields).translator = s.translator := invoke_translator _ _
  rw [forwardFields, hm, hhost]
  exact listening_fields ⟨hstarted.accepted, hstarted.link, hstarted.engine⟩ rfl (hbuffer.trans hb)

theorem listening_headersEnd (h : Listening faults (.headersComplete :: cbs) s) (hs : s.state = .headerFields)
    (hb : s.buffer = {}) :
    ∃ t, s.onHeadersEnd = (.ok (), t) ∧ Listening faults cbs t ∧ t.state = .headersComplete ∧ t.buffer = {} := by
  obtain ⟨hok, hl, hbuffer⟩ := listening_invoke (h.reach .headersComplete) rfl hb
  exact ⟨_, (onHeadersEnd_open h.accepted (.inr hs)).trans hok, hl, invoke_state _ _, hbuffer.trans hb⟩

end Stream

end FramedHttp
