import FramedHttp.Proofs.Frame.Link
import FramedHttp.Proofs.Response.Accepted

/-!
# The frames of a response

Over a link that takes every frame, a response is silent until its commit, and then one reply followed by
its body in data frames. The close mark goes out once, with the last frame. What was accepted is at every
moment what was sent and what is still buffered, in this order.
-/

set_option autoImplicit false

namespace FramedHttp

def OutFrame.payload : OutFrame → Octets
  | .reply _ _ => []
  | .data octets _ => octets

def OutFrame.isReply : OutFrame → Bool
  | .reply _ _ => true
  | .data _ _ => false

/-- The body octets in a list of frames. -/
def payload (frames : List OutFrame) : Octets :=
  frames.flatMap OutFrame.payload

/-- Data frames that leave the stream open. -/
def pieceFrames (pieces : List Octets) : List OutFrame :=
  pieces.map fun p => .data p false

/-- Nothing; or one closing reply; or an open reply, then non-empty open data frames, then perhaps one
closing data frame. -/
inductive Conversation : List OutFrame → Prop
  | silent : Conversation []
  | bare (headers : Headers) : Conversation [.reply headers true]
  | open (headers : Headers) (pieces : List Octets) (hp : ∀ p ∈ pieces, p ≠ []) :
      Conversation (.reply headers false :: pieceFrames pieces)
  | ended (headers : Headers) (pieces : List Octets) (hp : ∀ p ∈ pieces, p ≠ []) (last : Octets) :
      Conversation (.reply headers false :: pieceFrames pieces ++ [.data last true])

theorem payload_pieceFrames (pieces : List Octets) : payload (pieceFrames pieces) = pieces.flatten := by
  induction pieces with
  | nil => rfl
  | cons p ps ih => simpa [payload, pieceFrames, OutFrame.payload] using ih

theorem pieceFrames_append (pieces : List Octets) (p : Octets) :
    pieceFrames pieces ++ [.data p false] = pieceFrames (pieces ++ [p]) := by
  simp [pieceFrames]

/-- A conversation that has begun has one reply. -/
theorem conversation_reply {frames : List OutFrame} (h : Conversation frames) (hn : frames ≠ []) :
    frames.countP OutFrame.isReply = 1 := by
  have hpieces : ∀ pieces, (pieceFrames pieces).countP OutFrame.isReply = 0 := by
    intro pieces
    rw [List.countP_eq_zero]
    intro f hf
    obtain ⟨_, _, rfl⟩ := List.mem_map.mp hf
    exact Bool.false_ne_true
  cases h with
  | silent => exact absurd rfl hn
  | bare headers => rfl
  | «open» headers pieces => simp [List.countP_cons, hpieces, OutFrame.isReply]
  | ended headers pieces hp last => simp [List.countP_cons, hpieces, OutFrame.isReply]

/-- The link after a frame: only what was sent and the counts of calls differ. -/
structure Link.Extends (l : Link) (frames : List OutFrame) (k : Link) : Prop where
  sent : k.sent = l.sent ++ frames
  faults : k.faults = l.faults

namespace ReplyState

variable {r : ReplyState} {l : Link}

/-- Sending succeeds, sends these frames and leaves the sink open or closed. -/
def Sent (l : Link) (frames : List OutFrame) (closed : Bool)
    (x : Outcome EngineError (ReplyState × Link)) : Prop :=
  x.1 = .ok () ∧ x.2.1.replied = true ∧ x.2.1.closed = closed ∧ l.Extends frames x.2.2

theorem headers_bare (hl : l.Sends) (hr : r.replied = false) (head : ResponseHead) (last : Bool) :
    Sent l [.reply (replyHeaders head r.version) true] true (headers head [] last (r, l)) := by
  simp only [headers, hr, Link.sendReply_ok hl]
  exact ⟨rfl, rfl, rfl, rfl, rfl⟩

theorem headers_full (hl : l.Sends) (hr : r.replied = false) (head : ResponseHead) {buffered : Octets}
    (hb : buffered ≠ []) (last : Bool) :
    Sent l [.reply (replyHeaders head r.version) false, .data buffered last] last
      (headers head buffered last (r, l)) := by
  have he : buffered.isEmpty = false := by simpa using hb
  simp only [headers, data, hr, he, Link.sendReply_ok hl, Bool.false_eq_true, if_false]
  rw [Link.sendData_ok (by exact hl)]
  exact ⟨rfl, rfl, rfl, by simp, rfl⟩

theorem body_open (hl : l.Sends) (hr : r.replied = true) (hc : r.closed = false) {chunk : Octets}
    (hb : chunk ≠ []) (last : Bool) :
    Sent l [.data chunk last] last (body chunk last (r, l)) := by
  have he : chunk.isEmpty = false := by simpa using hb
  simp only [body, data, hr, hc, he, Link.sendData_ok hl]
  exact ⟨rfl, rfl, rfl, rfl, rfl⟩

theorem finish_open (hl : l.Sends) (hr : r.replied = true) (hc : r.closed = false) :
    Sent l [.data [] true] true (finish (r, l)) := by
  simp only [finish, data, hr, hc, Link.sendData_ok hl]
  exact ⟨rfl, rfl, rfl, rfl, rfl⟩

theorem finish_closed (hr : r.replied = true) (hc : r.closed = true) :
    Sent l [] true (finish (r, l)) := by
  simp only [finish, hr, hc]
  exact ⟨rfl, hr, hc, by simp, rfl⟩

end ReplyState

/-- How far a response has come on its link, what is still buffered of it, and what it has accepted. -/
inductive Conveyed : Phase → ReplyState → List OutFrame → Octets → Octets → Prop
  | opened {r : ReplyState} (buffer : Octets) (hr : r.replied = false) :
      Conveyed .opened r [] buffer buffer
  | committed {r : ReplyState} (headers : Headers) (pieces : List Octets) (buffer : Octets)
      (hp : ∀ p ∈ pieces, p ≠ []) (hne : pieces ≠ []) (hr : r.replied = true) (hc : r.closed = false) :
      Conveyed .committed r (.reply headers false :: pieceFrames pieces) buffer (pieces.flatten ++ buffer)
  | bare {r : ReplyState} (headers : Headers) : Conveyed .completed r [.reply headers true] [] []
  | completed {r : ReplyState} (headers : Headers) (pieces : List Octets) (last : Octets)
      (hp : ∀ p ∈ pieces, p ≠ []) (hne : pieces.flatten ++ last ≠ []) :
      Conveyed .completed r (.reply headers false :: pieceFrames pieces ++ [.data last true]) []
        (pieces.flatten ++ last)

theorem flatten_ne_nil {pieces : List Octets} (hp : ∀ p ∈ pieces, p ≠ []) (hne : pieces ≠ []) :
    pieces.flatten ≠ [] := by
  obtain ⟨p, hm⟩ := List.exists_mem_of_ne_nil pieces hne
  intro h
  exact hp p hm (List.flatten_eq_nil_iff.mp h p hm)

theorem forall_mem_snoc {pieces : List Octets} (hp : ∀ p ∈ pieces, p ≠ []) {p : Octets} (h : p ≠ []) :
    ∀ q ∈ pieces ++ [p], q ≠ [] := by
  intro q hq
  rcases List.mem_append.mp hq with hq | hq
  · exact hp q hq
  · rwa [List.mem_singleton.mp hq]

section Conveyed

variable {phase : Phase} {r : ReplyState} {frames : List OutFrame} {buffer octets : Octets}

theorem conveyed_conversation (h : Conveyed phase r frames buffer octets) : Conversation frames := by
  cases h with
  | opened => exact .silent
  | committed headers pieces _ hp => exact .open headers pieces hp
  | bare headers => exact .bare headers
  | completed headers pieces last hp => exact .ended headers pieces hp last

theorem conveyed_payload (h : Conveyed phase r frames buffer octets) :
    payload frames ++ buffer = octets := by
  cases h with
  | opened => rfl
  | committed headers pieces =>
    rw [← payload_pieceFrames]
    simp [payload, OutFrame.payload]
  | bare => rfl
  | completed headers pieces last =>
    rw [← payload_pieceFrames]
    simp [payload, OutFrame.payload]

/-- A completed response has one closing frame, and it is the last. -/
theorem conveyed_closed (h : Conveyed phase r frames buffer octets) (hp : phase = .completed) :
    ∃ before last, frames = before ++ [last] ∧ last.closes = true ∧ ∀ f ∈ before, f.closes = false := by
  cases h with
  | opened => cases hp
  | committed => cases hp
  | bare headers => exact ⟨[], _, rfl, rfl, by simp⟩
  | completed headers pieces last => exact ⟨_, _, rfl, rfl, by simp [pieceFrames, OutFrame.closes]⟩

/-- A completed response has one reply. -/
theorem conveyed_reply (h : Conveyed phase r frames buffer octets) (hp : phase = .completed) :
    frames.countP OutFrame.isReply = 1 := by
  obtain ⟨before, last, hf, _⟩ := conveyed_closed h hp
  apply conversation_reply (conveyed_conversation h)
  simp [hf]

/-- A completed response has nothing left to send. -/
theorem conveyed_buffer (h : Conveyed phase r frames buffer octets) (hp : phase = .completed) :
    buffer = [] := by
  cases h with
  | opened => cases hp
  | committed => cases hp
  | bare => rfl
  | completed => rfl

theorem conveyed_bare_iff (h : Conveyed phase r frames buffer octets) (hp : phase = .completed) :
    (∃ headers, .reply headers true ∈ frames) ↔ octets = [] := by
  cases h with
  | opened => cases hp
  | committed => cases hp
  | bare headers => simp
  | completed headers pieces last _ hne => simpa [pieceFrames] using hne

theorem conveyed_nil (h : Conveyed phase r frames buffer octets) (ho : octets = []) :
    frames = [] ∨ ∃ headers, frames = [.reply headers true] := by
  cases h with
  | opened => exact .inl rfl
  | committed headers pieces _ hp hne => exact absurd (List.append_eq_nil_iff.mp ho).1 (flatten_ne_nil hp hne)
  | bare headers => exact .inr ⟨headers, rfl⟩
  | completed headers pieces last _ hne => exact absurd ho hne

end Conveyed

namespace Generator

open ReplyState

/-- A response over a link that takes every frame, with the octets it has accepted. -/
structure Framed (g : Generator (ReplyState × Link)) (octets : Octets) : Prop where
  sends : g.sink.2.Sends
  omitted : g.omitBody = true → octets = []
  conveyed : Conveyed g.phase g.sink.1 g.sink.2.sent g.buffer octets

variable {g : Generator (ReplyState × Link)} {octets : Octets}

theorem framed_new {r : ReplyState} (hr : r.replied = false) {l : Link} (hl : l.Sends) (hs : l.sent = [])
    (capacity : Nat) (omitBody : Bool) :
    Framed { Generator.new (r, l) capacity with omitBody := omitBody } [] where
  sends := hl
  omitted _ := rfl
  conveyed := by
    change Conveyed .opened r l.sent [] []
    rw [hs]
    exact .opened [] hr

theorem framed_opened (h : Framed g octets) (hp : g.phase = .opened) :
    g.sink.1.replied = false ∧ g.sink.2.sent = [] ∧ g.buffer = octets := by
  have hc := h.conveyed
  rw [hp] at hc
  generalize g.sink.2.sent = frames at hc ⊢
  cases hc with
  | opened _ hr => exact ⟨hr, rfl, rfl⟩

theorem framed_committed (h : Framed g octets) (hp : g.phase = .committed) :
    ∃ headers pieces, (∀ p ∈ pieces, p ≠ []) ∧ pieces ≠ [] ∧ g.sink.1.replied = true ∧
      g.sink.1.closed = false ∧ g.sink.2.sent = .reply headers false :: pieceFrames pieces ∧
      octets = pieces.flatten ++ g.buffer := by
  have hc := h.conveyed
  rw [hp] at hc
  generalize g.sink.2.sent = frames at hc ⊢
  cases hc with
  | committed headers pieces _ hp hne hr hc => exact ⟨headers, pieces, hp, hne, hr, hc, rfl, rfl⟩

/-- An emission that was sent leaves the response where its frames say. -/
theorem framed_emit {e : Emission} {frames : List OutFrame} {closed : Bool}
    (hs : Sent g.sink.2 frames closed (ReplyState.emit e g.sink)) (hl : g.sink.2.Sends)
    (ho : g.omitBody = true → octets = [])
    (hc : ∀ r : ReplyState, r.replied = true → r.closed = closed →
      Conveyed g.phase r (g.sink.2.sent ++ frames) g.buffer octets) :
    Yields Framed (g.emit e) octets := by
  obtain ⟨hok, hr, hcl, hsent, hf⟩ := hs
  have hl' : (g.emit e).2.sink.2.Sends := by
    intro f hm
    exact hl f (hf ▸ hm)
  have hv := hc _ hr hcl
  rw [← hsent] at hv
  exact ⟨hok, hl', ho, hv⟩

/-- After a closing frame the completion sends nothing more. -/
theorem framed_close {e : Emission} {frames : List OutFrame}
    (hs : Sent g.sink.2 frames true (ReplyState.emit e g.sink)) (hl : g.sink.2.Sends)
    (ho : g.omitBody = true → octets = [])
    (hc : ∀ r : ReplyState, Conveyed .completed r (g.sink.2.sent ++ frames) g.buffer octets) :
    Yields Framed ((g.emit e).andThen close) octets := by
  obtain ⟨hok, hr, hcl, hsent, hf⟩ := hs
  have hl' : (ReplyState.emit e g.sink).2.2.Sends := by
    intro f hm
    exact hl f (hf ▸ hm)
  rw [emit_close hok]
  apply framed_emit (g := { g with sink := (ReplyState.emit e g.sink).2, phase := .completed })
    (finish_closed hr hcl) hl' ho
  intro r _ _
  have hv := hc r
  rw [← hsent] at hv
  rwa [List.append_nil]

theorem framed_commit (h : Framed g octets) (hp : g.phase = .opened) (hb : g.buffer ≠ []) :
    Yields Framed (g.commit false) octets := by
  obtain ⟨hr, hs, rfl⟩ := framed_opened h hp
  apply framed_emit (g := { g with buffer := [], phase := .committed })
    (headers_full h.sends hr g.head hb false) h.sends h.omitted
  intro r hrep hcl
  have hc := Conveyed.committed (replyHeaders g.head g.sink.1.version) [g.buffer] [] (by simpa using hb)
    (by simp) hrep hcl
  simpa [pieceFrames, hs] using hc

theorem framed_emitBuffer (h : Framed g octets) (hp : g.phase = .committed) (hb : g.buffer ≠ []) :
    Yields Framed (g.emitBuffer false) octets := by
  obtain ⟨headers, pieces, hne, hn, hr, hc, hs, rfl⟩ := framed_committed h hp
  apply framed_emit (g := { g with buffer := [] }) (body_open h.sends hr hc hb false) h.sends h.omitted
  intro r hrep hcl
  have hv := Conveyed.committed headers (pieces ++ [g.buffer]) [] (forall_mem_snoc hne hb) (by simp)
    hrep hcl
  simpa [hs, hp, pieceFrames_append] using hv

theorem framed_complete_opened (h : Framed g octets) (hp : g.phase = .opened) :
    Yields Framed g.complete octets := by
  obtain ⟨hr, hs, rfl⟩ := framed_opened h hp
  rw [complete_opened hp]
  by_cases hb : g.buffer = []
  · have hh := headers_bare h.sends hr g.head true
    rw [← hb] at hh
    apply framed_close (g := { g with buffer := [], phase := .committed }) hh h.sends h.omitted
    intro r
    simpa [hs, hb] using Conveyed.bare (replyHeaders g.head g.sink.1.version)
  · apply framed_close (g := { g with buffer := [], phase := .committed })
      (headers_full h.sends hr g.head hb true) h.sends h.omitted
    intro r
    simpa [hs, pieceFrames] using
      Conveyed.completed (replyHeaders g.head g.sink.1.version) [] g.buffer (by simp) (by simpa using hb)

theorem framed_complete_committed (h : Framed g octets) (hp : g.phase = .committed) :
    Yields Framed g.complete octets := by
  obtain ⟨headers, pieces, hne, hn, hr, hc, hs, rfl⟩ := framed_committed h hp
  have hf : pieces.flatten ≠ [] := flatten_ne_nil hne hn
  by_cases hb : g.buffer = []
  · rw [complete_drained hp hb]
    apply framed_emit (g := { g with phase := .completed }) (finish_open h.sends hr hc) h.sends h.omitted
    intro r _ _
    simpa [hs, hb] using Conveyed.completed (r := r) headers pieces [] hne (by simpa using hf)
  · rw [complete_left hp hb]
    apply framed_close (g := { g with buffer := [] }) (body_open h.sends hr hc hb true) h.sends h.omitted
    intro r
    simpa [hs] using Conveyed.completed (r := r) headers pieces g.buffer hne (by simp [hf])

theorem framed_carries : Carries Framed where
  change h _ _ := ⟨h.sends, h.omitted, h.conveyed⟩
  reset {g _} h hp := by
    obtain ⟨hr, hs, _⟩ := framed_opened h hp
    have hc : Conveyed g.phase g.sink.1 g.sink.2.sent [] [] := by
      rw [hp, hs]
      exact .opened [] hr
    exact ⟨h.sends, fun _ => rfl, hc⟩
  gather {g octets} h hp ho data := by
    have hc : Conveyed g.phase g.sink.1 g.sink.2.sent (g.buffer ++ data) (octets ++ data) := by
      cases hg : g.phase with
      | opened =>
        obtain ⟨hr, hs, rfl⟩ := framed_opened h hg
        rw [hs]
        exact .opened (g.buffer ++ data) hr
      | committed =>
        obtain ⟨headers, pieces, hne, hn, hr, hc, hs, rfl⟩ := framed_committed h hg
        rw [hs, List.append_assoc]
        exact .committed headers pieces (g.buffer ++ data) hne hn hr hc
      | completed => exact absurd hg hp
    exact ⟨h.sends, fun hb => absurd (ho.symm.trans hb) (by decide), hc⟩
  commit h hp hb := framed_commit h hp hb
  emitBuffer h hp hb := framed_emitBuffer h hp hb
  complete {g _} h hp := by
    cases hg : g.phase with
    | opened => exact framed_complete_opened h hg
    | committed => exact framed_complete_committed h hg
    | completed => exact absurd hg hp

theorem framed_aside (h : Framed g octets) {op : ResponseOp} (ha : op.isAside = true) :
    Framed (g.perform op).2 octets := by
  rcases aside_cases ha g with hk | ⟨e, he, hk⟩
  · rwa [hk]
  · rw [hk]
    cases e <;> first | exact h | cases he

theorem framed_run (h : Framed g octets) (ops : List ResponseOp) :
    Framed (run ops g) (accepted ops g octets) :=
  framed_carries.run h ops fun _ _ ha _ _ hk => framed_aside hk ha

/-- Whatever an application does to its response over a link that takes every frame, the frames form a
conversation; completing succeeds and leaves a closing frame last; the octets sent and buffered are those
accepted; a completed response has a closing reply just when it accepted no octets, and one without a body
consists of that reply alone. -/
theorem response_conversation (stream : Nat) (version : Version) (capacity : Nat) (omitBody : Bool)
    (ops : List ResponseOp) :
    let start : Generator (ReplyState × Link) :=
      { Generator.new (({ version := version } : ReplyState), ({ stream := stream } : Link)) capacity with
        omitBody := omitBody }
    let g := run ops start
    Conversation g.sink.2.sent ∧
    (∀ before after, ops = before ++ .complete :: after →
      ((run before start).perform .complete).1 = .ok () ∧
      ∃ frames last, g.sink.2.sent = frames ++ [last] ∧ last.closes = true) ∧
    payload g.sink.2.sent ++ g.buffer = accepted ops start [] ∧
    (g.isComplete = true →
      ((∃ headers, .reply headers true ∈ g.sink.2.sent) ↔ accepted ops start [] = [])) ∧
    (omitBody = true → g.sink.2.sent = [] ∨ ∃ headers, g.sink.2.sent = [.reply headers true]) := by
  intro start g
  have hstart : Framed start [] := framed_new rfl (by simp [Link.Sends]) rfl capacity omitBody
  have hg : Framed g (accepted ops start []) := framed_run hstart ops
  have hlast : ∀ before after, ops = before ++ .complete :: after →
      ((run before start).perform .complete).1 = .ok () ∧
      ∃ frames last, g.sink.2.sent = frames ++ [last] ∧ last.closes = true := by
    intro before after ho
    have hb := framed_run hstart before
    have hok := (framed_carries.complete_accept hb).1
    have hp : g.phase = .completed := by
      change (run ops start).phase = _
      rw [ho, run_append]
      exact completed_persists.run (complete_completed hok) after
    obtain ⟨frames, last, hs, hl, _⟩ := conveyed_closed hg.conveyed hp
    exact ⟨hok, frames, last, hs, hl⟩
  have hbare : g.isComplete = true →
      ((∃ headers, .reply headers true ∈ g.sink.2.sent) ↔ accepted ops start [] = []) := by
    intro hc
    exact conveyed_bare_iff hg.conveyed (by simpa [isComplete] using hc)
  have hnone : omitBody = true → g.sink.2.sent = [] ∨ ∃ headers, g.sink.2.sent = [.reply headers true] := by
    intro ho
    have homit : g.omitBody = true := by
      rw [run_omitBody]
      exact ho
    exact conveyed_nil hg.conveyed (hg.omitted homit)
  exact ⟨conveyed_conversation hg.conveyed, hlast, conveyed_payload hg.conveyed, hbare, hnone⟩

end Generator

end FramedHttp
