import FramedHttp.Proofs.Wire.ChunkReader
import FramedHttp.Proofs.Wire.Transcript
import Mathlib.Data.List.Basic

/-!
# The end of a chunked body

The zero-size chunk that ends a chunked body is written before the flush behind it, and the body is at its end
only when that flush succeeds. So the first failing flush of an end leaves the response open behind it: the end
can be written again, and so can further chunks.
-/

set_option autoImplicit false

namespace FramedHttp

open Framing

namespace Chunk

theorem encode_of_ne_nil {data : Octets} (h : data ≠ []) : encode data = sized data :=
  if_neg (by simpa using h)

theorem flatMap_encode {pieces : List Octets} (h : ∀ p ∈ pieces, p ≠ []) :
    pieces.flatMap encode = pieces.flatMap sized :=
  List.flatMap_congr fun p hp => encode_of_ne_nil (h p hp)

/-- Chunks with at most one last chunk behind them, and nothing behind that. -/
def EndsOnce (octets : Octets) : Prop :=
  ∃ pieces : List Octets, (∀ p ∈ pieces, p ≠ []) ∧
    (octets = pieces.flatMap encode ∨ octets = pieces.flatMap encode ++ terminator)

theorem EndsOnce.read {octets data rest : Octets} (h : EndsOnce octets) (hr : read? octets = some (data, rest)) :
    rest = [] := by
  obtain ⟨pieces, _, rfl | rfl⟩ := h
  · rw [read_unended] at hr
    cases hr
  · have hall := read_pieces pieces []
    rw [List.append_nil, hr] at hall
    exact (Prod.mk.inj (Option.some.inj hall)).2

end Chunk

namespace Generator

/-- What is on a writer that takes everything, its flushes failing or not, behind the head of a response: pieces of
what was accepted, in order, and among them ends. An end with anything behind it is one whose flush failed; so the
body ends once if the first such flush, which comes after those of the interim responses, does not fail. -/
theorem body_ends (takesNothing : Bool) (flushFails : Nat → Bool) (capacity : Nat) (omitBody : Bool)
    (ops : List ResponseOp) (hops : ∀ op ∈ ops, ∀ octets, op ≠ .raw octets) :
    let w : Writer := { takesNothing := takesNothing, flushFails := flushFails }
    let start := { Generator.new (Framing.pending, w) capacity with omitBody := omitBody }
    let g := run ops start
    g.phase ≠ .opened →
      ∃ (interims : List Status) (buffered : Octets) (last : Bool) (items : List Octets),
        let chosen := choose g.head buffered last
        g.sink.2.octets = interimOctets interims ++ headOctets g.head chosen.2 ++ items.flatMap chosen.1.item ∧
        items.flatten ++ g.buffer = accepted ops start [] ∧
        (∀ before after, items = before ++ [] :: after → after ≠ [] →
          flushFails (interims.length + before.count []) = true) ∧
        (chosen.1 = .chunked → flushFails interims.length = false →
          Chunk.EndsOnce (items.flatMap chosen.1.item)) := by
  intro w start g hp
  cases told_run w rfl rfl capacity omitBody ops hops with
  | opened _ ho => exact absurd ho hp
  | begun interims buffered last items _ hsent hacc _ _ =>
    have hopen : (choose g.head buffered last).1 ≠ .done := by
      intro hd
      have ho := choose_open g.head buffered last
      rw [hd] at ho
      cases ho
    refine ⟨interims, buffered, last, items, hsent.kept.octets, hacc, ?_, ?_⟩
    · intro before after hi ha
      exact hsent.trail.failing_before hopen hi (.inr ha) rfl
    · intro hc hf
      have hfirst : ¬ w.Failing (interims.length + 0) := fun hn => Bool.eq_false_iff.mp hf (hn rfl)
      obtain ⟨pieces, hpieces, rfl | rfl⟩ := hsent.trail.one_end hopen hfirst
      · exact ⟨items, hpieces, .inl (by rw [hc, Chunk.flatMap_encode hpieces]; rfl)⟩
      · exact ⟨pieces, hpieces, .inr (by rw [hc, Chunk.flatMap_encode hpieces, List.flatMap_append]; rfl)⟩

/-- The flush behind the first end fails, and the end is written again. -/
theorem body_ends_retried :
    let flushFails := fun n => n == 0
    let w : Writer := { takesNothing := false, flushFails := flushFails }
    let start := { Generator.new (Framing.pending, w) 16 with omitBody := false }
    let ops : List ResponseOp := [.write [97, 98, 99], .flush, .complete, .complete]
    let g := run ops start
    (∀ op ∈ ops, ∀ octets, op ≠ .raw octets) ∧ g.phase ≠ .opened ∧
      ∃ (interims : List Status) (buffered : Octets) (last : Bool) (items : List Octets),
        let chosen := choose g.head buffered last
        g.sink.2.octets = interimOctets interims ++ headOctets g.head chosen.2 ++ items.flatMap chosen.1.item ∧
        items.flatten ++ g.buffer = accepted ops start [] ∧
        (∀ before after, items = before ++ [] :: after → after ≠ [] →
          flushFails (interims.length + before.count []) = true) ∧
        (chosen.1 = .chunked → flushFails interims.length = false →
          Chunk.EndsOnce (items.flatMap chosen.1.item)) := by
  intro flushFails w start ops g
  have hops : ∀ op ∈ ops, ∀ octets, op ≠ .raw octets := by simp [ops]
  have hp : g.phase ≠ .opened := by decide +kernel
  have h := body_ends false flushFails 16 false ops hops
  simp only [g, start, w] at hp h ⊢
  exact ⟨hops, hp, h hp⟩

/-- Two ends, one behind the other, over a writer whose flushes all fail. -/
theorem body_ended_twice :
    let w : Writer := { flushFails := fun _ => true }
    let ops : List ResponseOp := [.write [97, 98, 99], .flush, .write [100, 101], .complete, .complete]
    let g := run ops (Generator.new (Framing.pending, w) 16)
    let body := Chunk.encode [97, 98, 99] ++ Chunk.encode [100, 101] ++ Chunk.terminator ++ Chunk.terminator
    choose g.head [97, 98, 99] false = (.chunked, (choose g.head [97, 98, 99] false).2) ∧
      g.sink.2.octets = headOctets g.head (choose g.head [97, 98, 99] false).2 ++ body ∧
      ¬ Chunk.EndsOnce body := by
  intro w ops g body
  have hread : Chunk.read? body = some ([97, 98, 99, 100, 101], Chunk.terminator) :=
    Chunk.read_pieces [[97, 98, 99], [100, 101]] Chunk.terminator
  have hbody : ¬ Chunk.EndsOnce body := fun he => absurd (he.read hread) (by decide +kernel)
  refine ⟨?_, ?_, hbody⟩
  · decide +kernel
  · decide +kernel

end Generator

end FramedHttp
