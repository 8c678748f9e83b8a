import FramedHttp.Exchange.Service
import FramedHttp.Proofs.Content.Reading
import FramedHttp.Proofs.Frame.Link
import FramedHttp.Proofs.Stream.Move

/-!
# Request bodies on their way

The frames of a request body wait in the inbox behind each other. Once the header section has ended, every
one of them is taken without a failure, a reader that finds nothing gets what is held back by pulling, and
so nobody ever waits.
-/

set_option autoImplicit false

namespace FramedHttp

open Content

/-- The frames of a body, with the end mark on the last one or on none. -/
inductive BodyFrames : List InFrame → Prop
  | ended : BodyFrames [.streamEnd]
  | last (data : Octets) : BodyFrames [.body data true, .streamEnd]
  | more (data : Octets) {rest : List InFrame} (h : BodyFrames rest) : BodyFrames (.body data false :: rest)

inductive HeaderFrames : List InFrame → Prop
  | more (headers : Headers) {rest : List InFrame} (h : HeaderFrames rest) :
      HeaderFrames (.metadata headers :: rest)
  | ended {rest : List InFrame} (h : BodyFrames rest) : HeaderFrames (.headersEnd :: rest)
  | body {rest : List InFrame} (h : BodyFrames rest) : HeaderFrames rest

/-- The frames of a request. Its first metadata is not empty, and if it has a request line, there is no NUL
in the path. -/
inductive RequestFrames : List InFrame → Prop
  | request {first : Headers} {rest : List InFrame} (hne : first.isEmpty = false)
      (hpath : ∀ line, RequestLine.ofHeaders first = .ok line → '\x00' ∉ Target.path line.target.toList)
      (h : HeaderFrames rest) : RequestFrames (.metadata first :: rest)

/-- What is still to come of a body, by the stage of its stream and by whether its end is known. -/
inductive Arriving : Lifecycle → Bool → List InFrame → Prop
  | growing {state : Lifecycle} {frames : List InFrame} (hs : state.isReading = true)
      (hf : BodyFrames frames) : Arriving state false frames
  | grown {state : Lifecycle} (hs : state.isReading = true) : Arriving state true [.streamEnd]
  | ended : Arriving .final true []

theorem arriving_cons {state : Lifecycle} {complete : Bool} {frame : InFrame} {rest : List InFrame}
    (h : Arriving state complete (frame :: rest)) :
    state.isReading = true ∧
      (frame = .streamEnd ∧ rest = [] ∨
        ∃ data last, frame = .body data last ∧
          ∀ next : Lifecycle, next.isReading = true → Arriving next (complete || last) rest) := by
  cases h with
  | growing hs hf =>
    constructor
    · exact hs
    cases hf with
    | ended => exact .inl ⟨rfl, rfl⟩
    | last data => exact .inr ⟨data, true, rfl, fun _ hn => .grown hn⟩
    | more data hf => exact .inr ⟨data, false, rfl, fun _ hn => .growing hn hf⟩
  | grown hs => exact ⟨hs, .inl ⟨rfl, rfl⟩⟩

theorem arriving_nil {state : Lifecycle} {complete : Bool} (h : Arriving state complete []) :
    state = .final ∧ complete = true := by
  cases h with
  | growing _ hf => cases hf
  | ended => exact ⟨rfl, rfl⟩

theorem arriving_canBlock {state : Lifecycle} {complete : Bool} {frames : List InFrame}
    (h : Arriving state complete frames) : state.canBlock = true := by
  cases h with
  | growing hs => cases state <;> first | rfl | cases hs
  | grown hs => cases state <;> first | rfl | cases hs
  | ended => rfl

theorem fill_drained {b : Buffer} (h : b.isDrained = true) (data : Octets) (last : Bool) :
    ∃ c, b.fill data last = .ok c ∧ c.complete = (b.complete || last) ∧ c.discarding = b.discarding ∧
      (b.discarding = true → c.fragment = []) := by
  have hf : b.fill data last = .ok _ := if_pos h
  have hg : b.discarding = true → (if b.discarding then b.fragment else data) = [] := by
    intro hd
    rw [if_pos hd]
    exact Buffer.isDrained_iff.mp h
  exact ⟨_, hf, rfl, rfl, hg⟩

namespace Session

variable {ε : Type} [Engine ε]

section Deliveries

variable {P : List InFrame → Stream ε → Prop} (hP : ∀ {frame : InFrame} {rest : List InFrame} {s : Stream ε},
  P (frame :: rest) s → holds true frame s = false → ∃ t, s.receive frame = (.ok (), t) ∧ P rest t)
include hP

/-- Where every frame that need not wait is taken, delivering stops only when nothing is left, or at a frame
that has to wait. -/
theorem pumpFrames_takes {inbox : List InFrame} {s : Stream ε} (hs : P inbox s) :
    ∃ t left, pumpFrames true inbox s = (.ok (), t, left) ∧ P left t ∧
      (left = [] ∨ t.buffer.isDrained = false) := by
  induction inbox generalizing s with
  | nil => exact ⟨s, [], rfl, hs, .inl rfl⟩
  | cons frame rest ih =>
    by_cases hh : holds true frame s = true
    · have hd : s.buffer.isDrained = false := by
        cases frame with
        | body data last => simpa [holds] using hh
        | _ => cases hh
      have hp : pumpFrames true (frame :: rest) s = (.ok (), s, frame :: rest) := if_pos hh
      exact ⟨s, frame :: rest, hp, hs, .inr hd⟩
    · obtain ⟨t, hr, ht⟩ := hP hs (Bool.eq_false_iff.mpr hh)
      obtain ⟨u, left, hu, hpu, hl⟩ := ih ht
      have hpump : pumpFrames true (frame :: rest) s = pumpFrames true rest t := by
        rw [pumpFrames, if_neg hh, hr]
      exact ⟨u, left, hpump.trans hu, hpu, hl⟩

/-- So does a pull over a link that takes it. -/
theorem pull_takes {s : Session ε} {l : Link} (hpull : s.link.pull = (.ok (), l)) (hpressure : s.pressure = true)
    (hs : P s.inbox (s.stream.withLink l)) :
    ∃ t left, s.pull = (.ok (), { s with stream := t, inbox := left }) ∧ P left t ∧
      (left = [] ∨ t.buffer.isDrained = false) := by
  obtain ⟨t, left, hp, ht, hleft⟩ := pumpFrames_takes hP hs
  rw [← hpressure] at hp
  have hpump : s.pull = (s.withLink l).pump := by
    simp only [pull, hpull]
    rfl
  have hk : (s.withLink l).pump = (.ok (), { s with stream := t, inbox := left }) := by
    change (s.withLink l).afterDelivery (pumpFrames s.pressure s.inbox (s.stream.withLink l)) = _
    rw [hp]
    rfl
  exact ⟨t, left, hpump.trans hk, ht, hleft⟩

end Deliveries

omit [Engine ε] in
theorem look_arriving {s : Session ε} (ha : Arriving s.stream.state s.buffer.complete s.inbox) :
    s.look = if s.buffer.isDrained then if s.buffer.complete then .ended else .waiting
      else .content s.buffer.fragment :=
  if_pos (arriving_canBlock ha)

end Session

namespace Stream

variable {s t : Stream (Exchange ReplyState)} {inbox rest : List InFrame} {frame : InFrame}

theorem invoke_complete (s : Stream (Exchange ReplyState)) (hint : Nat) :
    s.invoke (.complete hint) = (.ok (), { s with callbacks := s.callbacks ++ [.complete hint] }) := rfl

theorem invoke_chunk_kept (hr : s.engine.refused = false) (octets : Octets) :
    s.invoke (.chunk octets) = (.ok (), { s with callbacks := s.callbacks ++ [.chunk octets] }) := by
  have hr' : s.seat.engine.refused = false := hr
  simp [invoke, Engine.call, Exchange.receive, hr', Outcome.mapState, Outcome.mapError]

/-- An exchange that has refused the request drops every chunk. -/
theorem invoke_chunk_dropped (hr : s.engine.refused = true) :
    s.invoke (.chunk s.buffer.fragment) =
      (.ok (), { s.withBuffer (s.buffer.consume s.buffer.fragment.length) with
        callbacks := s.callbacks ++ [.chunk s.buffer.fragment] }) := by
  have hr' : s.seat.engine.refused = true := hr
  have hb : s.seat.buffer.release? s.seat.buffer.fragment.length =
      some (s.seat.buffer.consume s.seat.buffer.fragment.length) := if_pos (Nat.le_refl _)
  simp [invoke, Engine.call, Exchange.receive, hr', releaseAt, buffer, hb, Outcome.mapState,
    Outcome.mapError, withBuffer]

/-- Of a chunk an exchange takes nothing, unless it has refused the request: then it takes everything. -/
theorem announceChunk_ok (s : Stream (Exchange ReplyState)) :
    ∃ b cbs, s.announceChunk = (.ok (), { s.withBuffer b with callbacks := cbs }) ∧
      b.complete = s.buffer.complete ∧ b.discarding = s.buffer.discarding ∧
      (s.buffer.fragment = [] ∨ s.engine.refused = true → b.fragment = []) := by
  by_cases hd : s.buffer.fragment = []
  · have hc : s.announceChunk = (.ok (), s) := if_pos (Buffer.isDrained_iff.mpr hd)
    exact ⟨s.buffer, s.callbacks, hc, rfl, rfl, fun _ => hd⟩
  · have hc : s.announceChunk = s.invoke (.chunk s.buffer.fragment) :=
      if_neg fun h => hd (Buffer.isDrained_iff.mp h)
    rw [hc]
    by_cases hr : s.engine.refused = true
    · rw [invoke_chunk_dropped hr]
      exact ⟨_, _, rfl, rfl, rfl, fun _ => by simp⟩
    · rw [invoke_chunk_kept (Bool.eq_false_iff.mpr hr)]
      exact ⟨s.buffer, _, rfl, rfl, rfl, fun h => absurd h (by simp [hd, hr])⟩

/-- The header section has ended, and the frames of the body arrive. -/
structure Streaming (s : Stream (Exchange ReplyState)) (inbox : List InFrame) : Prop where
  accepted : s.rejected = false
  arriving : Arriving s.state s.buffer.complete inbox
  dropped : s.buffer.discarding = true → s.buffer.fragment = []
  quiet : s.link.Quiet

/-- What a body frame leaves as it was. -/
structure Passed (s t : Stream (Exchange ReplyState)) : Prop where
  engine : t.engine = s.engine
  link : t.link = s.link
  discarding : t.buffer.discarding = s.buffer.discarding
  dropped : s.engine.refused = true → s.buffer.fragment = [] → t.buffer.fragment = []

theorem Passed.refl (s : Stream (Exchange ReplyState)) : Passed s s :=
  ⟨rfl, rfl, rfl, fun _ h => h⟩

theorem Passed.trans {r : Stream (Exchange ReplyState)} (h : Passed r s) (k : Passed s t) : Passed r t where
  engine := k.engine.trans h.engine
  link := k.link.trans h.link
  discarding := k.discarding.trans h.discarding
  dropped hr hb := k.dropped (h.engine ▸ hr) (h.dropped hr hb)

theorem receive_end (h : Streaming s [.streamEnd]) :
    ∃ t, s.receive .streamEnd = (.ok (), t) ∧ Streaming t [] ∧ Passed s t := by
  obtain ⟨hread, _⟩ := arriving_cons h.arriving
  have hr := (onEnd_reading h.accepted hread).trans (invoke_complete _ 0)
  exact ⟨_, hr, ⟨h.accepted, .ended, h.dropped, h.quiet⟩, ⟨rfl, rfl, rfl, fun _ hb => hb⟩⟩

/-- A body frame is dropped at once where nobody reads the body. -/
theorem receive_body (h : Streaming s inbox) (hread : s.state.isReading = true)
    (hd : s.buffer.isDrained = true) (data : Octets) {last : Bool}
    (hnext : Arriving .body (s.buffer.complete || last) rest) :
    ∃ t, s.receive (.body data last) = (.ok (), t) ∧ Streaming t rest ∧ Passed s t := by
  obtain ⟨c, hfill, hlast, hkept, hgiven⟩ := fill_drained hd data last
  obtain ⟨b, cbs, hc, hcomplete, hdiscarding, hdrop⟩ := announceChunk_ok ((s.withBuffer c).reach .body)
  have hr := (onBody_reading h.accepted hread hfill).trans hc
  have hb : b.discarding = s.buffer.discarding := hdiscarding.trans hkept
  have harriving : Arriving .body b.complete rest := by
    rw [hcomplete.trans hlast]
    exact hnext
  have hdropped : b.discarding = true → b.fragment = [] := by
    intro hg
    exact hdrop (.inl (hgiven (hb.symm.trans hg)))
  exact ⟨_, hr, ⟨h.accepted, harriving, hdropped, h.quiet⟩, ⟨rfl, rfl, hb, fun hf _ => hdrop (.inr hf)⟩⟩

/-- A frame that need not wait is taken. -/
theorem receive_streaming (h : Streaming s (frame :: rest)) (hh : Session.holds true frame s = false) :
    ∃ t, s.receive frame = (.ok (), t) ∧ Streaming t rest ∧ Passed s t := by
  obtain ⟨hread, ⟨rfl, rfl⟩ | ⟨data, last, rfl, hnext⟩⟩ := arriving_cons h.arriving
  · exact receive_end h
  · have hd : s.buffer.isDrained = true := by simpa [Session.holds] using hh
    exact receive_body h hread hd data (hnext .body rfl)

end Stream

namespace Session

variable {s : Served}

/-- A session that brings the body of a request in. -/
structure Fed (s : Served) : Prop where
  streaming : Stream.Streaming s.stream s.inbox
  taken : s.stream.engine.refused = false
  pressure : s.pressure = true
  failures : s.failures = []

theorem Fed.withBuffer (h : Fed s) {b : Buffer} (hc : b.complete = s.buffer.complete)
    (hd : b.discarding = true → b.fragment = []) : Fed (s.withBuffer b) where
  streaming := by
    have ha : Arriving s.stream.state b.complete s.inbox := by
      rw [hc]
      exact h.streaming.arriving
    exact ⟨h.streaming.accepted, ha, hd, h.streaming.quiet⟩
  taken := h.taken
  pressure := h.pressure
  failures := h.failures

theorem Fed.withLink (h : Fed s) {l : Link} (hl : l.Quiet) : Fed (s.withLink l) where
  streaming := ⟨h.streaming.accepted, h.streaming.arriving, h.streaming.dropped, hl⟩
  taken := h.taken
  pressure := h.pressure
  failures := h.failures

/-- What reading leaves as it was: nothing more was sent, and a body that is given up stays so. -/
structure Read (sent : List OutFrame) (discarding : Bool) (s : Served) : Prop where
  fed : Fed s
  sent : s.link.sent = sent
  discarding : discarding = true → s.buffer.discarding = true

variable {sent : List OutFrame} {discarding : Bool}

theorem pull_read (h : Read sent discarding s) :
    ∃ t, s.pull = (.ok (), t) ∧ Read sent discarding t ∧ (t.inbox = [] ∨ t.buffer.isDrained = false) := by
  have hq : s.link.Quiet := h.fed.streaming.quiet
  have hk := h.fed.withLink (l := { s.link with pulls := s.link.pulls + 1 }) ⟨hq.faults, hq.terminations⟩
  obtain ⟨t, left, hpull, ⟨ht, hpass⟩, hleft⟩ := pull_takes
    (P := fun inbox t => Stream.Streaming t inbox ∧ Stream.Passed (s.stream.withLink _) t)
    (fun {_ _ _} hs hh => by
      obtain ⟨u, hu, hsu, hpu⟩ := Stream.receive_streaming hs.1 hh
      exact ⟨u, hu, hsu, hs.2.trans hpu⟩)
    hq.pull_ok h.fed.pressure ⟨hk.streaming, .refl _⟩
  have htaken : t.engine.refused = false := (congrArg Exchange.refused hpass.engine).trans h.fed.taken
  have hsent : t.link.sent = sent := (congrArg Link.sent hpass.link).trans h.sent
  have hgiven : discarding = true → t.buffer.discarding = true := by
    intro hd
    exact hpass.discarding.trans (h.discarding hd)
  exact ⟨_, hpull, ⟨⟨ht, htaken, h.fed.pressure, h.fed.failures⟩, hsent, hgiven⟩, hleft⟩

/-- Nobody waits for a body that has arrived or is held back. -/
theorem look_found (h : Fed s) (hf : s.inbox = [] ∨ s.buffer.isDrained = false) : s.look ≠ .waiting := by
  rw [look_arriving h.streaming.arriving]
  by_cases hd : s.buffer.isDrained = true
  · rcases hf with hf | hf
    -- Nothing is left to come, so the end has been taken and is what the reader gets.
    · have ha := h.streaming.arriving
      rw [hf] at ha
      have hc : s.buffer.complete = true := (arriving_nil ha).2
      rw [if_pos hd, if_pos hc]
      exact nofun
    · exact absurd (hf.symm.trans hd) (by decide)
  · rw [if_neg hd]
    exact nofun

theorem await_read (h : Read sent discarding s) (waits : Bool) :
    Read sent discarding (s.await waits).2 ∧ (waits = false → (s.await waits).1 ≠ .waiting) := by
  obtain ⟨t, hp, ht, hleft⟩ := pull_read h
  unfold await
  cases hl : s.look with
  | waiting =>
    cases waits with
    | true => exact ⟨h, fun hw => absurd hw (by decide)⟩
    | false =>
      simp only [hp]
      exact ⟨ht, fun _ => look_found ht.fed hleft⟩
  | content octets => exact ⟨h, fun _ => nofun⟩
  | ended => exact ⟨h, fun _ => nofun⟩
  | failed e => exact ⟨h, fun _ => nofun⟩

theorem consume_read (h : Read sent discarding s) (n : Nat) : Read sent discarding (s.consume n).2 := by
  unfold consume
  split
  · next hb =>
    obtain ⟨_, rfl⟩ := Buffer.release?_eq_some_iff.mp hb
    have hdropped : (s.buffer.consume n).discarding = true → (s.buffer.consume n).fragment = [] := by
      intro hd
      have hn : s.buffer.fragment = [] := h.fed.streaming.dropped hd
      simp [hn]
    exact ⟨h.fed.withBuffer rfl hdropped, h.sent, h.discarding⟩
  · exact h

theorem discard_read (h : Read sent discarding s) : Read sent true s.discard.2 := by
  have hg : Read sent true (s.withBuffer s.buffer.discard) :=
    ⟨h.fed.withBuffer rfl fun _ => rfl, h.sent, fun _ => rfl⟩
  unfold discard
  dsimp only
  split
  · exact hg
  · obtain ⟨t, hp, ht, _⟩ := pull_read hg
    rw [hp]
    exact ht

theorem read_serves : Serves (Read sent discarding) where
  await {s} h waits := by
    have ha := (await_read h waits).1
    exact ha
  consume {s} h n := by
    have hc := consume_read h n
    rwa [← Outcome.mapError_snd StreamError.toEngine (s.consume n)] at hc
  discard {s} h := by
    have hd := discard_read h
    rw [← Outcome.mapError_snd StreamError.toEngine s.discard] at hd
    exact ⟨hd.fed, hd.sent, fun _ => hd.discarding rfl⟩

end Session

end FramedHttp
