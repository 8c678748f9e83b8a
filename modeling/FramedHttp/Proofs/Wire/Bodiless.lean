import FramedHttp.Proofs.Wire.Transcript

/-!
# Responses without a body

A response whose status has no body is framed as one whose length is known, and nothing is added to its head.
Body octets that an application writes to it are neither refused nor dropped: they follow the head as they are.
-/

set_option autoImplicit false

namespace FramedHttp

open Framing

namespace Framing

theorem identity_items (items : List Octets) : items.flatMap Framing.identity.item = items.flatten :=
  List.flatMap_id

end Framing

namespace Generator

/-- Behind the head of a committed response without a body stands what was accepted as its body and handed over,
and nothing else, whatever is called afterwards and whatever the writer answers. The head is the last of its
octets only where no body octet was handed over. -/
theorem bodiless_wire (w : Writer) (hw : w.octets = []) (hflushes : w.flushes = 0) (capacity : Nat)
    (omitBody : Bool) (ops : List ResponseOp) (hops : ∀ op ∈ ops, ∀ octets, op ≠ .raw octets) :
    let start := { Generator.new (Framing.pending, w) capacity with omitBody := omitBody }
    let g := run ops start
    g.head.status.isBodiless = true → g.phase ≠ .opened →
      ∃ (interims : List Status) (body : Octets),
        g.sink.2.octets = w.cut (interimOctets interims ++ headOctets g.head g.head.headers ++ body) ∧
        body ++ g.buffer = accepted ops start [] ∧ (g.phase = .completed → g.buffer = []) := by
  intro start g hs hp
  cases told_run w hw hflushes capacity omitBody ops hops with
  | opened _ ho => exact absurd ho hp
  | begun interims buffered last items _ hsent hacc _ hcompleted =>
    have hoctets := hsent.kept.octets
    rw [choose_bodiless hs, identity_items] at hoctets
    exact ⟨interims, items.flatten, hoctets, hacc, hcompleted⟩

/-- A body behind the interim response and the head of a response that has none. -/
theorem bodiless_wire_early_hints :
    let start := { Generator.new (Framing.pending, ({} : Writer)) 16 with omitBody := false }
    let ops : List ResponseOp := [.informational 103, .status 204, .write [97, 98, 99], .complete]
    let g := run ops start
    (∀ op ∈ ops, ∀ octets, op ≠ .raw octets) ∧ g.head.status.isBodiless = true ∧ g.phase ≠ .opened ∧
      ∃ (interims : List Status) (body : Octets),
        g.sink.2.octets =
          Writer.cut {} (interimOctets interims ++ headOctets g.head g.head.headers ++ body) ∧
        body ++ g.buffer = accepted ops start [] ∧ (g.phase = .completed → g.buffer = []) := by
  intro start ops g
  have hops : ∀ op ∈ ops, ∀ octets, op ≠ .raw octets := by simp [ops]
  have hs : g.head.status.isBodiless = true := by decide +kernel
  have hp : g.phase ≠ .opened := by decide +kernel
  have h := bodiless_wire {} rfl rfl 16 false ops hops
  simp only [g, start] at hs hp h ⊢
  exact ⟨hops, hs, hp, h hs hp⟩

/-- Three octets behind the head of a response with the status 204. -/
theorem no_content_with_body :
    let g := run [.status 204, .write [97, 98, 99], .complete] (Generator.new (Framing.pending, ({} : Writer)) 16)
    g.head.status.isBodiless = true ∧ g.phase = .completed ∧
      g.sink.2.octets = headOctets g.head g.head.headers ++ [97, 98, 99] := by
  decide +kernel

end Generator

end FramedHttp
