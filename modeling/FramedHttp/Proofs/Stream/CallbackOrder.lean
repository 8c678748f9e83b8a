import FramedHttp.Proofs.Stream.Run

/-!
# The order of callbacks

An engine is told a request in order: its start, its header fields, the end of the header section, the
chunks of its body, its completion. The stage of a stream says how far the telling has come, also when a
callback failed on the way; a stream that refused its request has told nothing.
-/

set_option autoImplicit false

namespace FramedHttp

namespace Callback

def head (method target version : String) (fields : List Field) : List Callback :=
  .start method target version :: fields.map fun f => .field f.name f.value

/-- A whole request as an engine is told it. -/
def request (method target version : String) (fields : List Field) (chunks : List Octets) :
    List Callback :=
  head method target version fields ++ .headersComplete :: chunks.map .chunk ++ [.complete 0]

theorem head_append (method target version : String) (fields : List Field) (f : Field) :
    head method target version fields ++ [.field f.name f.value] =
      head method target version (fields ++ [f]) := by
  simp [head]

/-- How much was told when a stream is in a stage. -/
inductive Told : Lifecycle → List Callback → Prop
  | initial : Told .initial []
  | requestLine (method target version : String) : Told .requestLine (head method target version [])
  | headerFields (method target version : String) (fields : List Field) :
      Told .headerFields (head method target version fields)
  | headersComplete (method target version : String) (fields : List Field) :
      Told .headersComplete (head method target version fields ++ [.headersComplete])
  | body (method target version : String) (fields : List Field) (chunks : List Octets)
      (hc : ∀ c ∈ chunks, c ≠ []) :
      Told .body (head method target version fields ++ .headersComplete :: chunks.map .chunk)
  | final (method target version : String) (fields : List Field) (chunks : List Octets)
      (hc : ∀ c ∈ chunks, c ≠ []) : Told .final (request method target version fields chunks)

theorem told_start {cbs : List Callback} (h : Told .initial cbs) (method target version : String) :
    Told .requestLine (cbs ++ [.start method target version]) := by
  cases h
  exact .requestLine method target version

/-- The header section is open once the request line was told. -/
theorem told_open {state : Lifecycle} {cbs : List Callback} (h : Told state cbs)
    (hs : state = .requestLine ∨ state = .headerFields) : Told .headerFields cbs := by
  cases h with
  | requestLine m t v => exact .headerFields m t v []
  | headerFields m t v fields => exact .headerFields m t v fields
  | _ => simp at hs

theorem told_field {cbs : List Callback} (h : Told .headerFields cbs) (f : Field) :
    Told .headerFields (cbs ++ [.field f.name f.value]) := by
  cases h with
  | headerFields m t v fields =>
    rw [head_append]
    exact .headerFields m t v _

theorem told_headersEnd {cbs : List Callback} (h : Told .headerFields cbs) :
    Told .headersComplete (cbs ++ [.headersComplete]) := by
  cases h
  exact .headersComplete _ _ _ _

theorem told_reading {state : Lifecycle} {cbs : List Callback} (h : Told state cbs)
    (hs : state.isReading = true) : Told .body cbs := by
  cases h with
  | headersComplete m t v fields => exact .body m t v fields [] (by simp)
  | body m t v fields chunks hc => exact .body m t v fields chunks hc
  | _ => simp [Lifecycle.isReading] at hs

theorem told_chunk {cbs : List Callback} (h : Told .body cbs) {octets : Octets} (ho : octets ≠ []) :
    Told .body (cbs ++ [.chunk octets]) := by
  cases h with
  | body m t v fields chunks hc =>
    have hn : ∀ c ∈ chunks ++ [octets], c ≠ [] := by
      intro c hm
      rcases List.mem_append.mp hm with hm | hm
      · exact hc c hm
      · rwa [List.mem_singleton.mp hm]
    simpa using Told.body m t v fields (chunks ++ [octets]) hn

theorem told_complete {cbs : List Callback} (h : Told .body cbs) : Told .final (cbs ++ [.complete 0]) := by
  cases h with
  | body m t v fields chunks hc => exact .final m t v fields chunks hc

/-- What was told so far is the beginning of a request. -/
theorem told_request {state : Lifecycle} {cbs : List Callback} (h : Told state cbs) :
    ∃ method target version fields chunks, (∀ c ∈ chunks, c ≠ []) ∧
      cbs <+: request method target version fields chunks := by
  cases h with
  | initial => exact ⟨"", "", "", [], [], by simp, List.nil_prefix⟩
  | requestLine m t v => exact ⟨m, t, v, [], [], by simp, by simp [request]⟩
  | headerFields m t v fields => exact ⟨m, t, v, fields, [], by simp, by simp [request]⟩
  | headersComplete m t v fields => exact ⟨m, t, v, fields, [], by simp, by simp [request]⟩
  | body m t v fields chunks hc => exact ⟨m, t, v, fields, chunks, hc, by simp [request]⟩
  | final m t v fields chunks hc => exact ⟨m, t, v, fields, chunks, hc, List.prefix_rfl⟩

/-- In the last stage each of the three single callbacks was attempted once. -/
theorem told_once {cbs : List Callback} (h : Told .final cbs) {kind : CallbackKind}
    (hk : kind = .start ∨ kind = .headersComplete ∨ kind = .complete) :
    cbs.countP (fun cb => cb.kind = kind) = 1 := by
  cases h with
  | final m t v fields chunks hc =>
    rcases hk with rfl | rfl | rfl <;>
      simp [request, head, Callback.kind, List.countP_append, Function.comp_def]

end Callback

namespace Stream

open Callback

variable {ε : Type}

/-- Nothing is pending, and the stage says what was told. -/
def Ordered (s : Stream ε) : Prop :=
  s.pending = false ∧ if s.rejected then s.callbacks = [] else Told s.state s.callbacks

theorem ordered_told {s : Stream ε} (h : Ordered s) (hr : s.rejected = false) :
    Told s.state s.callbacks := by
  simpa [hr] using h.2

variable [Engine ε]

theorem ordered_invoke {s : Stream ε} {cb : Callback} (hp : s.pending = false)
    (hr : s.rejected = false) (h : Told s.state (s.callbacks ++ [cb])) : Ordered (s.invoke cb).2 := by
  simpa [Ordered, hp, hr] using h

theorem ordered_fields {s : Stream ε} (hp : s.pending = false) (hr : s.rejected = false)
    (hs : s.state = .headerFields) (h : Told .headerFields s.callbacks) :
    Ordered s.forwardFields.2 := by
  have hk : ∀ (f : Field) (t : Stream ε),
      (t.state = .headerFields ∧ t.rejected = false ∧ Ordered t) →
      ((t.invoke (.field f.name f.value)).2.state = .headerFields ∧
        (t.invoke (.field f.name f.value)).2.rejected = false ∧
        Ordered (t.invoke (.field f.name f.value)).2) := by
    rintro f t ⟨hst, hrt, ht⟩
    have hto := ordered_told ht hrt
    rw [hst] at hto
    have hf : Told t.state (t.callbacks ++ [.field f.name f.value]) := by
      rw [hst]
      exact told_field hto f
    exact ⟨by simpa using hst, by simpa using hrt, ordered_invoke ht.1 hrt hf⟩
  have ho : Ordered { s with metadata := none } := by simpa [Ordered, hp, hr, hs] using h
  exact (forwardFields_keeps hk ⟨hs, hr, ho⟩).2.2

theorem ordered_move {s t : Stream ε} (hs : Ordered s) (hm : Move s t) : Ordered t := by
  cases hm with
  | start hr hi hne hl =>
    have ht := ordered_told hs hr
    rw [hi] at ht
    exact ordered_invoke rfl hr (told_start ht _ _ _)
  | reject hr hi hne hl =>
    have ht := ordered_told hs hr
    rw [hi] at ht
    cases hcb : s.callbacks with
    | nil => exact ⟨rfl, hcb⟩
    | cons => rw [hcb] at ht; cases ht
  | fields headers hr hi =>
    have ht := ordered_told hs hr
    exact ordered_fields rfl hr rfl (told_open ht hi)
  | headersEnd hr hi =>
    have ht := ordered_told hs hr
    exact ordered_invoke rfl hr (told_headersEnd (told_open ht hi))
  | body hr hi hb =>
    have ht := told_reading (ordered_told hs hr) hi
    unfold announceChunk
    split
    · simpa [Ordered, hr] using ht
    · next hd =>
      exact ordered_invoke rfl hr (told_chunk ht fun he => hd (Content.Buffer.isDrained_iff.mpr he))
  | finish hr hi =>
    have ht := told_reading (ordered_told hs hr) hi
    exact ordered_invoke rfl hr (told_complete ht)

theorem ordered_kept : Kept (Ordered (ε := ε)) where
  settled h := h.1
  move h hm := ordered_move h hm
  release h _ _ _ := h
  discard h := h
  pull h := h
  terminate h := h

/-- Whatever is done to a stream in its session, and whichever callbacks fail, the callbacks attempted are
the beginning of a request; a stream that has ended without refusing its request has told all of it. -/
theorem callbacks_in_order (settings : Settings) (link : Link) (engine : ε) (inbox : List InFrame)
    (pressure : Bool) (ops : List SessionOp) :
    let s := (Session.run ops
      { stream := new settings link engine, inbox := inbox, pressure := pressure }).stream
    (∃ method target version fields chunks, (∀ c ∈ chunks, c ≠ []) ∧
      s.callbacks <+: request method target version fields chunks) ∧
    (s.state = .final → s.rejected = false →
      s.callbacks.countP (fun cb => cb.kind = .start) = 1 ∧
      s.callbacks.countP (fun cb => cb.kind = .headersComplete) = 1 ∧
      s.callbacks.countP (fun cb => cb.kind = .complete) = 1) := by
  intro s
  have ho : Ordered s := Session.run_keeps ordered_kept ops ⟨rfl, .initial⟩
  constructor
  · by_cases hr : s.rejected = true
    · have hc : s.callbacks = [] := by simpa [hr] using ho.2
      rw [hc]
      exact told_request .initial
    · exact told_request (ordered_told ho (Bool.eq_false_iff.mpr hr))
  · intro hf hr
    have ht := ordered_told ho hr
    rw [hf] at ht
    exact ⟨told_once ht (by simp), told_once ht (by simp), told_once ht (by simp)⟩

end Stream

end FramedHttp
