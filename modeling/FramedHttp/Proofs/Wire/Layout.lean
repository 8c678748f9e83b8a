import FramedHttp.Proofs.Response.Accepted
import FramedHttp.Wire.Encoder

/-!
# The octets of a response

The framing of a response is chosen at its commit, from what is known of the body by then, and the head
says so. On a writer that takes everything the head is followed by the pieces of the body as the framing
lays them out, and by what ends them. The pieces written and what is still buffered are the octets that
the response has accepted.
-/

set_option autoImplicit false

namespace FramedHttp

namespace Writer

/-- Nothing that is written or flushed fails. -/
structure Willing (w : Writer) : Prop where
  roomy : w.limit = none
  flushes : ∀ n, w.flushFails n = false

theorem Willing.after {w : Writer} (h : w.Willing) (octets : Octets) :
    Willing { w with octets := octets } :=
  ⟨h.roomy, h.flushes⟩

theorem flush_willing {w : Writer} (h : w.Willing) :
    w.flush = (.ok (), { w with flushes := w.flushes + 1 }) := by
  simp [flush, h.flushes]

end Writer

namespace Framing

/-- A piece of the body on the wire. -/
def piece : Framing → Octets → Octets
  | .chunked, data => Chunk.encode data
  | _, data => data

/-- What stands behind the last piece. -/
def ending : Framing → Octets
  | .chunked => Chunk.terminator
  | _ => []

/-- The framing has been chosen, and the body is not at its end. -/
def isOpen : Framing → Bool
  | .identity | .chunked => true
  | _ => false

/-- Writing succeeds, puts these octets behind the others and leaves this framing. -/
structure Wrote (w : Writer) (octets : Octets) (framing : Framing)
    (x : Outcome EngineError (Framing × Writer)) : Prop where
  ok : x.1 = .ok ()
  framing : x.2.1 = framing
  willing : x.2.2.Willing
  octets : x.2.2.octets = w.octets ++ octets

variable {w : Writer} {framing : Framing}

theorem writeBody_wrote (hw : w.Willing) (ho : framing.isOpen = true) (data : Octets) :
    Wrote w (framing.piece data) framing (writeBody data (framing, w)) := by
  cases framing with
  | identity =>
    simp only [writeBody, Writer.put_free hw.roomy]
    exact ⟨rfl, rfl, hw.after _, rfl⟩
  | chunked =>
    simp only [writeBody, Chunk.write_free hw.roomy]
    exact ⟨rfl, rfl, hw.after _, rfl⟩
  | pending => cases ho
  | done => cases ho

theorem finish_wrote (hw : w.Willing) (ho : framing.isOpen = true) :
    Wrote w framing.ending .done (finish (framing, w)) := by
  cases framing with
  | identity =>
    simp only [finish, Writer.flush_willing hw]
    exact ⟨rfl, rfl, ⟨hw.roomy, hw.flushes⟩, (List.append_nil _).symm⟩
  | chunked =>
    simp only [finish, Chunk.writeLast, Writer.put_free hw.roomy, Outcome.andThen_ok,
      Writer.flush_willing (hw.after _)]
    exact ⟨rfl, rfl, ⟨hw.roomy, hw.flushes⟩, rfl⟩
  | pending => cases ho
  | done => cases ho

/-- After the end there is nothing more to write. -/
theorem finish_done (hw : w.Willing) : Wrote w [] .done (finish (.done, w)) :=
  ⟨rfl, rfl, hw, by simp [finish]⟩

theorem body_wrote (hw : w.Willing) (ho : framing.isOpen = true) (data : Octets) :
    Wrote w (framing.piece data) framing (body data false (framing, w)) ∧
      Wrote w (framing.piece data ++ framing.ending) .done (body data true (framing, w)) := by
  have hb := writeBody_wrote hw ho data
  unfold body
  rcases hr : writeBody data (framing, w) with ⟨_ | _, s⟩ <;> rw [hr] at hb
  · cases hb.ok
  · obtain ⟨f, v⟩ := s
    have hf : f = framing := hb.framing
    have hv := finish_wrote hb.willing (hf ▸ ho)
    have hoctets : (finish (f, v)).2.2.octets = w.octets ++ (framing.piece data ++ framing.ending) := by
      rw [← List.append_assoc, ← hb.octets, ← hf]
      exact hv.octets
    exact ⟨hb, hv.ok, hv.framing, hv.willing, hoctets⟩

theorem choose_open (head : ResponseHead) (buffered : Octets) (last : Bool) :
    (choose head buffered last).1.isOpen = true := by
  unfold choose
  split
  · rfl
  · split <;> rfl

theorem choose_more (head : ResponseHead) (buffered : Octets) :
    choose head buffered false = choose head [] false := by
  simp [choose]

theorem choose_bodiless {head : ResponseHead} (h : head.status.isBodiless = true) (buffered : Octets)
    (last : Bool) : choose head buffered last = (.identity, head.headers) := by
  simp [choose, h]

/-- The head that announces what was chosen, and the first piece. -/
theorem headers_wrote (hw : w.Willing) (head : ResponseHead) (buffered : Octets) (last : Bool) :
    let chosen := choose head buffered last
    let front := headOctets head chosen.2 ++ chosen.1.piece buffered
    Wrote w (if last then front ++ chosen.1.ending else front) (if last then .done else chosen.1)
      (headers head buffered last (.pending, w)) := by
  intro chosen front
  have hv := hw.after (w.octets ++ headOctets head chosen.2)
  have hh : headers head buffered last (.pending, w) =
      body buffered last (chosen.1, { w with octets := w.octets ++ headOctets head chosen.2 }) := by
    simp only [headers, Writer.put_free hw.roomy]
    rfl
  obtain ⟨hmore, hlast⟩ := body_wrote hv (choose_open head buffered last) buffered
  rw [hh]
  cases last with
  | false =>
    have hoctets := hmore.octets
    rw [List.append_assoc] at hoctets
    exact ⟨hmore.ok, hmore.framing, hmore.willing, hoctets⟩
  | true =>
    have hoctets := hlast.octets
    rw [List.append_assoc, ← List.append_assoc (headOctets head chosen.2)] at hoctets
    exact ⟨hlast.ok, hlast.framing, hlast.willing, hoctets⟩

end Framing

open Framing

/-- How far a response has come on the wire, what is still buffered of it, and what it has accepted. A
response is whole when it was complete at its commit. -/
inductive Laid (head : ResponseHead) : Phase → Framing → Octets → Octets → Octets → Prop
  | opened (buffer : Octets) : Laid head .opened .pending [] buffer buffer
  | committed (pieces : List Octets) (buffer : Octets) :
      Laid head .committed (choose head [] false).1
        (headOctets head (choose head [] false).2 ++ pieces.flatMap (choose head [] false).1.piece)
        buffer (pieces.flatten ++ buffer)
  | whole (body : Octets) :
      Laid head .completed .done
        (headOctets head (choose head body true).2 ++ (choose head body true).1.piece body ++
          (choose head body true).1.ending) [] body
  | completed (pieces : List Octets) :
      Laid head .completed .done
        (headOctets head (choose head [] false).2 ++ pieces.flatMap (choose head [] false).1.piece ++
          (choose head [] false).1.ending) [] pieces.flatten

namespace Generator

/-- A response over a writer that takes everything, with the octets it has accepted. -/
structure Written (g : Generator (Framing × Writer)) (octets : Octets) : Prop where
  willing : g.sink.2.Willing
  laid : Laid g.head g.phase g.sink.1 g.sink.2.octets g.buffer octets
  full : g.omitBody = false

variable {g : Generator (Framing × Writer)} {octets : Octets}

theorem written_new {w : Writer} (hw : w.Willing) (ho : w.octets = []) (capacity : Nat) :
    Written (Generator.new (Framing.pending, w) capacity) [] where
  willing := hw
  laid := by
    change Laid {} .opened .pending w.octets [] []
    rw [ho]
    exact .opened []
  full := rfl

theorem written_opened (h : Written g octets) (hp : g.phase = .opened) :
    g.sink.1 = .pending ∧ g.sink.2.octets = [] ∧ g.buffer = octets := by
  have hl := h.laid
  rw [hp] at hl
  generalize g.sink.1 = framing, g.sink.2.octets = wire at hl ⊢
  cases hl with
  | opened => exact ⟨rfl, rfl, rfl⟩

theorem written_committed (h : Written g octets) (hp : g.phase = .committed) :
    g.sink.1 = (choose g.head [] false).1 ∧ ∃ pieces : List Octets, octets = pieces.flatten ++ g.buffer ∧
      g.sink.2.octets = headOctets g.head (choose g.head [] false).2 ++
        pieces.flatMap (choose g.head [] false).1.piece := by
  have hl := h.laid
  rw [hp] at hl
  generalize g.sink.1 = framing, g.sink.2.octets = wire at hl ⊢
  cases hl with
  | committed pieces => exact ⟨rfl, pieces, rfl, rfl⟩

/-- An emission that was written leaves the response where its octets say. -/
theorem written_emit {e : Emission} {more : Octets} {framing : Framing}
    (hw : Wrote g.sink.2 more framing (Framing.emit e g.sink)) (hfull : g.omitBody = false)
    (hl : Laid g.head g.phase framing (g.sink.2.octets ++ more) g.buffer octets) :
    Yields Written (g.emit e) octets := by
  rw [← hw.octets, ← hw.framing] at hl
  exact ⟨hw.ok, hw.willing, hl, hfull⟩

/-- A completion whose last emission reaches the end has nothing more to do. -/
theorem emit_close_done {e : Emission} (hok : (Framing.emit e g.sink).1 = .ok ())
    (hd : (Framing.emit e g.sink).2.1 = .done) :
    (g.emit e).andThen close =
      (.ok (), { g with sink := (Framing.emit e g.sink).2, phase := .completed }) := by
  have hidle : finish (Framing.emit e g.sink).2 = (.ok (), (Framing.emit e g.sink).2) := by
    rcases hs : (Framing.emit e g.sink).2 with ⟨framing, w⟩
    rw [hs] at hd
    obtain rfl : framing = .done := hd
    rfl
  have hc : (g.emit e).andThen close =
      ((finish (Framing.emit e g.sink).2).1,
        { g with sink := (finish (Framing.emit e g.sink).2).2, phase := .completed }) := emit_close hok
  rw [hc, hidle]

/-- After the last piece the completion writes nothing more. -/
theorem written_close {e : Emission} {more : Octets}
    (hw : Wrote g.sink.2 more .done (Framing.emit e g.sink)) (hfull : g.omitBody = false)
    (hl : Laid g.head .completed .done (g.sink.2.octets ++ more) g.buffer octets) :
    Yields Written ((g.emit e).andThen close) octets := by
  have hd := hw.framing
  have ho := hw.octets
  rw [emit_close hw.ok]
  generalize hs : (Sink.emit e g.sink).2 = s
  have hs' : (Framing.emit e g.sink).2 = s := hs
  rw [hs'] at hd ho
  obtain ⟨f, w⟩ := s
  obtain rfl : f = .done := hd
  apply written_emit (g := { g with sink := (.done, w), phase := .completed })
    (finish_done (hs' ▸ hw.willing)) hfull
  rw [← ho] at hl
  rwa [List.append_nil]

theorem sink_opened (h : Written g octets) (hp : g.phase = .opened) : g.sink = (.pending, g.sink.2) :=
  Prod.ext (written_opened h hp).1 rfl

theorem sink_committed (h : Written g octets) (hp : g.phase = .committed) :
    g.sink = ((choose g.head [] false).1, g.sink.2) :=
  Prod.ext (written_committed h hp).1 rfl

theorem written_complete_opened (h : Written g octets) (hp : g.phase = .opened) :
    Yields Written g.complete octets := by
  obtain ⟨_, hs, rfl⟩ := written_opened h hp
  have hw := headers_wrote h.willing g.head g.buffer true
  rw [← sink_opened h hp] at hw
  have hl : Laid g.head _ _ _ _ _ := .whole g.buffer
  rw [complete_opened hp]
  apply written_close (g := { g with buffer := [], phase := .committed }) hw h.full
  simpa [hs] using hl

theorem written_complete_committed (h : Written g octets) (hp : g.phase = .committed) :
    Yields Written g.complete octets := by
  obtain ⟨_, pieces, rfl, hs⟩ := written_committed h hp
  have ho := choose_open g.head [] false
  by_cases hb : g.buffer = []
  · have hw := finish_wrote h.willing ho
    rw [← sink_committed h hp] at hw
    have hl : Laid g.head _ _ _ _ _ := .completed pieces
    rw [complete_drained hp hb]
    apply written_emit (g := { g with phase := .completed }) hw h.full
    simpa [hs, hb] using hl
  · have hw := (body_wrote h.willing ho g.buffer).2
    rw [← sink_committed h hp] at hw
    have hl : Laid g.head _ _ _ _ _ := .completed (pieces ++ [g.buffer])
    rw [complete_left hp hb]
    apply written_close (g := { g with buffer := [] }) hw h.full
    simpa [hs] using hl

theorem written_commit (h : Written g octets) (hp : g.phase = .opened) :
    Yields Written (g.commit false) octets := by
  obtain ⟨_, hs, rfl⟩ := written_opened h hp
  have hw := headers_wrote h.willing g.head g.buffer false
  rw [choose_more, ← sink_opened h hp] at hw
  have hl : Laid g.head _ _ _ _ _ := .committed [g.buffer] []
  apply written_emit (g := { g with buffer := [], phase := .committed }) hw h.full
  simpa [hs] using hl

theorem written_emitBuffer (h : Written g octets) (hp : g.phase = .committed) :
    Yields Written (g.emitBuffer false) octets := by
  obtain ⟨_, pieces, rfl, hs⟩ := written_committed h hp
  have hw := (body_wrote h.willing (choose_open g.head [] false) g.buffer).1
  rw [← sink_committed h hp] at hw
  have hl : Laid g.head _ _ _ _ _ := .committed (pieces ++ [g.buffer]) []
  apply written_emit (g := { g with buffer := [] }) hw h.full
  simpa [hs, hp] using hl

theorem written_gather (h : Written g octets) (hp : g.phase ≠ .completed) (data : Octets) :
    Written { g with buffer := g.buffer ++ data } (octets ++ data) := by
  have hl : Laid g.head g.phase g.sink.1 g.sink.2.octets (g.buffer ++ data) (octets ++ data) := by
    cases hg : g.phase with
    | opened =>
      obtain ⟨hf, hs, rfl⟩ := written_opened h hg
      rw [hf, hs]
      exact .opened _
    | committed =>
      obtain ⟨hf, pieces, rfl, hs⟩ := written_committed h hg
      rw [hf, hs, List.append_assoc]
      exact .committed pieces _
    | completed => exact absurd hg hp
  exact ⟨h.willing, hl, h.full⟩

theorem written_carries : Carries Written where
  change {g _} h hp head := by
    obtain ⟨hf, hs, rfl⟩ := written_opened h hp
    have hl : Laid head g.phase g.sink.1 g.sink.2.octets g.buffer g.buffer := by
      rw [hp, hf, hs]
      exact .opened g.buffer
    exact ⟨h.willing, hl, h.full⟩
  reset {g _} h hp := by
    obtain ⟨hf, hs, _⟩ := written_opened h hp
    have hl : Laid {} g.phase g.sink.1 g.sink.2.octets [] [] := by
      rw [hp, hf, hs]
      exact .opened []
    exact ⟨h.willing, hl, h.full⟩
  gather h hp _ data := written_gather h hp data
  commit h hp _ := written_commit h hp
  emitBuffer h hp _ := written_emitBuffer h hp
  complete {g _} h hp := by
    cases hg : g.phase with
    | opened => exact written_complete_opened h hg
    | committed => exact written_complete_committed h hg
    | completed => exact absurd hg hp

end Generator

end FramedHttp
