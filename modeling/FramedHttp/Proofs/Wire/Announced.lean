import FramedHttp.Proofs.Response.Account
import FramedHttp.Proofs.Wire.ReadBack

/-!
# What the head says of the body

The head of a response on a byte stream announces how its body goes out: by its length or in chunks. Where the
length is counted at the commit, a coding that the application gave is left in the head beside it.
-/

set_option autoImplicit false

namespace FramedHttp

open Framing

namespace Framing

variable {head : ResponseHead} {framing : Framing}

theorem values_counted (headers : Headers) (value : String) :
    (headers.set contentLength value).values contentLength = [value] ∧
      (headers.set contentLength value).values transferEncoding = headers.values transferEncoding :=
  ⟨Headers.values_set_self _ _ _, Headers.values_set_of_ne (by decide) _ _⟩

theorem values_coded (headers : Headers) (value : String) :
    (headers.set transferEncoding value).values transferEncoding = [value] ∧
      (headers.set transferEncoding value).values contentLength = headers.values contentLength :=
  ⟨Headers.values_set_self _ _ _, Headers.values_set_of_ne (by decide) _ _⟩

/-- What is chosen: as the application said, by the length of a body that is complete, or in chunks. -/
theorem choose_cases (head : ResponseHead) (buffered : Octets) (last : Bool) :
    (head.headers.values contentLength ≠ [] ∨ head.status.isBodiless = true) ∧
        choose head buffered last = (.identity, head.headers) ∨
      (head.headers.values contentLength = [] ∧ head.status.isBodiless = false ∧ last = true) ∧
        choose head buffered last =
          (.identity, head.headers.set contentLength (toString buffered.length)) ∨
      (head.headers.values contentLength = [] ∧ head.status.isBodiless = false ∧ last = false) ∧
        choose head buffered last = (.chunked, head.headers.set transferEncoding "chunked") := by
  by_cases hs : head.status.isBodiless = true
  · exact .inl ⟨.inr hs, choose_bodiless hs buffered last⟩
  by_cases hc : head.headers.values contentLength = []
  · have hs : head.status.isBodiless = false := Bool.eq_false_iff.mpr hs
    cases last with
    | true => exact .inr (.inl ⟨⟨hc, hs, rfl⟩, by simp [choose, Headers.contains_eq_false hc, hs]⟩)
    | false => exact .inr (.inr ⟨⟨hc, hs, rfl⟩, by simp [choose, Headers.contains_eq_false hc, hs]⟩)
  · exact .inl ⟨.inl hc, choose_given hc buffered last⟩

section Single

variable (buffered : Octets) (last : Bool)
  (hone : head.headers.values contentLength = [] ∨ head.headers.values transferEncoding = [])
include hone

/-- The head holds both fields where a length was counted beside a given coding. -/
theorem both_fields :
    ((choose head buffered last).2.values contentLength ≠ [] ∧
        (choose head buffered last).2.values transferEncoding ≠ []) ↔
      head.headers.values transferEncoding ≠ [] ∧ last = true ∧ head.status.isBodiless = false := by
  have hboth : ¬ (head.headers.values contentLength ≠ [] ∧ head.headers.values transferEncoding ≠ []) := by
    rintro ⟨hc, ht⟩
    exact hone.elim hc ht
  rcases choose_cases head buffered last with ⟨hg, he⟩ | ⟨⟨_, hs, hl⟩, he⟩ | ⟨⟨hc, _, hl⟩, he⟩
  · have hnot : ¬ (head.headers.values transferEncoding ≠ [] ∧ last = true ∧
        head.status.isBodiless = false) := by
      rintro ⟨ht, _, hs⟩
      exact hg.elim (fun hc => hboth ⟨hc, ht⟩) fun hb => absurd (hb.symm.trans hs) (by decide)
    rw [he]
    exact iff_of_false hboth hnot
  · obtain ⟨hlen, hcoding⟩ := values_counted head.headers (toString buffered.length)
    simp only [he, hlen, hcoding]
    simp [hl, hs]
  · have hlen := (values_coded head.headers "chunked").2
    rw [he]
    simp [hlen, hc, hl]

/-- The head announces chunks where the body is chunked, and where the application did so itself. -/
theorem announced_chunks (hs : head.status.isBodiless = false) :
    "chunked" ∈ (choose head buffered last).2.values transferEncoding ↔
      (choose head buffered last).1 = .chunked ∨
        "chunked" ∈ head.headers.values transferEncoding ∧ last = true := by
  rcases choose_cases head buffered last with ⟨hg, he⟩ | ⟨⟨_, _, hl⟩, he⟩ | ⟨_, he⟩
  · have hb : ¬ head.status.isBodiless = true := Bool.eq_false_iff.mp hs
    have ht : head.headers.values transferEncoding = [] := hone.resolve_left (hg.resolve_right hb)
    rw [he]
    simp [ht]
  · have hcoding := (values_counted head.headers (toString buffered.length)).2
    simp only [he, hcoding]
    simp [hl]
  · have hcoding := (values_coded head.headers "chunked").1
    rw [he]
    simp [hcoding]

end Single

/-- A body complete at the commit is not chunked. -/
theorem choose_whole (head : ResponseHead) (buffered : Octets) : (choose head buffered true).1 = .identity := by
  rcases choose_cases head buffered true with ⟨_, he⟩ | ⟨_, he⟩ | ⟨⟨_, _, hl⟩, _⟩
  · rw [he]
  · rw [he]
  · cases hl

theorem piece_nil (framing : Framing) : framing.piece [] = [] := by
  cases framing <;> rfl

/-- What was written of a body is a chunked encoding of it only in the framing that makes chunks. -/
theorem read_written (ho : framing.isOpen = true) (pieces : List Octets) :
    Chunk.read? (pieces.flatMap framing.piece ++ framing.ending) = some (pieces.flatten, []) ↔
      framing = .chunked := by
  cases framing with
  | chunked =>
    have hr := Chunk.read_pieces pieces []
    rw [List.append_nil] at hr
    exact iff_of_true hr rfl
  | identity =>
    have hraw : pieces.flatMap Framing.identity.piece ++ Framing.identity.ending = pieces.flatten :=
      (List.append_nil _).trans List.flatMap_id
    have hread : ¬ Chunk.read? pieces.flatten = some (pieces.flatten, []) :=
      fun hr => Nat.lt_irrefl _ (Chunk.read_length hr)
    rw [hraw]
    exact iff_of_false hread (by decide)
  | pending => cases ho
  | done => cases ho

end Framing

namespace Generator

variable {g : Generator (Framing × Writer)} {octets : Octets}

/-- A response that is not completed, with its accepted octets, whether or not it takes a body. -/
structure Underway (g : Generator (Framing × Writer)) (octets : Octets) : Prop where
  written : Written { g with omitBody := false } octets
  phase : g.phase ≠ .completed

theorem underway_accounts : Accounts Underway where
  change h hp head := ⟨written_carries.change h.written hp head, h.phase⟩
  reset h hp := ⟨written_carries.reset h.written hp, h.phase⟩
  gather h hp _ data := ⟨written_carries.gather h.written hp rfl data, h.phase⟩
  commit h hp hb := ⟨(written_carries.commit h.written hp hb).2, nofun⟩
  emitBuffer h hp hb := ⟨(written_carries.emitBuffer h.written hp hb).2, h.phase⟩

/-- A completion that commits writes the whole response. -/
theorem complete_commits (hw : g.sink.2.Willing) (hf : g.sink.1 = .pending) (hp : g.phase = .opened) :
    let chosen := choose g.head g.buffer true
    g.complete.1 = .ok () ∧ g.complete.2.sink.2.octets =
      g.sink.2.octets ++ (headOctets g.head chosen.2 ++ chosen.1.piece g.buffer ++ chosen.1.ending) := by
  intro chosen
  have hsink : g.sink = (.pending, g.sink.2) := Prod.ext hf rfl
  have hwrote := headers_wrote hw g.head g.buffer true
  rw [← hsink] at hwrote
  have hclose := emit_close_done (g := { g with buffer := [], phase := .committed })
    (e := .headers g.head g.buffer true) hwrote.ok hwrote.framing
  rw [complete_opened hp, commit, hclose]
  exact ⟨rfl, hwrote.octets⟩

/-- A completion after the commit writes what is left of the body, and its end. -/
theorem complete_ends {framing : Framing} (hw : g.sink.2.Willing) (hf : g.sink.1 = framing)
    (ho : framing.isOpen = true) (hp : g.phase = .committed) :
    g.complete.1 = .ok () ∧ g.complete.2.sink.2.octets =
      g.sink.2.octets ++ (framing.piece g.buffer ++ framing.ending) := by
  have hsink : g.sink = (framing, g.sink.2) := Prod.ext hf rfl
  by_cases hb : g.buffer = []
  · have hwrote := finish_wrote hw ho
    rw [← hsink] at hwrote
    rw [complete_drained hp hb, hb, piece_nil]
    exact ⟨hwrote.ok, hwrote.octets⟩
  · have hwrote := (body_wrote hw ho g.buffer).2
    rw [← hsink] at hwrote
    have hclose := emit_close_done (g := { g with buffer := [] }) (e := .body g.buffer true) hwrote.ok
      hwrote.framing
    rw [complete_left hp hb, emitBuffer, hclose]
    exact ⟨rfl, hwrote.octets⟩

/-- The completion of a response under way writes the rest of its head and its body. -/
theorem underway_complete (h : Underway g octets) :
    let chosen := choose g.head octets (!g.isCommitted)
    g.complete.1 = .ok () ∧ ∃ pieces : List Octets, octets = pieces.flatten ∧
      g.complete.2.sink.2.octets =
        headOctets g.head chosen.2 ++ (pieces.flatMap chosen.1.piece ++ chosen.1.ending) := by
  intro chosen
  have hw : g.sink.2.Willing := h.written.willing
  cases hp : g.phase with
  | opened =>
    obtain ⟨hf, hs, hbuf⟩ := written_opened h.written hp
    have hnot : g.isCommitted = false := by simp [isCommitted, hp]
    have hc : chosen = choose g.head g.buffer true := by simp [chosen, hnot, ← hbuf]
    obtain ⟨hok, hwire⟩ := complete_commits hw hf hp
    rw [hwire, hc]
    exact ⟨hok, [g.buffer], by simpa using hbuf.symm, by simpa using hs⟩
  | committed =>
    obtain ⟨hf, pieces, hflat, hs⟩ := written_committed h.written hp
    have hcommitted : g.isCommitted = true := by simp [isCommitted, hp]
    have hc : chosen = choose g.head [] false := by
      simp only [chosen, hcommitted]
      exact choose_more g.head octets
    obtain ⟨hok, hwire⟩ := complete_ends hw hf (choose_open g.head [] false) hp
    dsimp only at hs
    rw [hwire, hc, hs]
    exact ⟨hok, pieces ++ [g.buffer], by simpa using hflat, by simp⟩
  | completed => exact absurd hp h.phase

/-- Where the application gave no more than one of the two fields, the head of a response on a writer that takes
everything holds both exactly if a coding was given and the length was counted, the body being complete at the
commit; and chunks are what the head announces them to be unless that given coding says chunked. -/
theorem announced_framing (w : Writer) (hw : w.Willing) (ho : w.octets = []) (capacity : Nat) (omitBody : Bool)
    (ops : List ResponseOp) (hops : ∀ op ∈ ops, op.isAside = false ∧ op ≠ .complete) :
    let start := { Generator.new (Framing.pending, w) capacity with omitBody := omitBody }
    let g := run ops start
    let given := g.head.headers
    let body := accepted ops start []
    let headers := (choose g.head body (!g.isCommitted)).2
    let r := g.perform .complete
    r.1 = .ok () ∧ ∃ after : Octets, r.2.sink.2.octets = headOctets g.head headers ++ after ∧
      (given.values contentLength = [] ∨ given.values transferEncoding = [] →
        (headers.values contentLength ≠ [] ∧ headers.values transferEncoding ≠ [] ↔
          given.values transferEncoding ≠ [] ∧ g.isCommitted = false ∧ g.head.status.isBodiless = false) ∧
        (g.head.status.isBodiless = false →
          ((Chunk.read? after = some (body, []) ↔ "chunked" ∈ headers.values transferEncoding) ↔
            ¬ ("chunked" ∈ given.values transferEncoding ∧ g.isCommitted = false)))) := by
  intro start g given body headers r
  have hstart : Underway start [] := ⟨written_new hw ho capacity, nofun⟩
  have hrun : Underway g body := underway_accounts.run (fun _ => rfl) hstart fun op hm hx =>
    hx.elim (fun ha => absurd (ha.symm.trans (hops op hm).1) (by decide)) fun hc => absurd hc (hops op hm).2
  obtain ⟨hok, pieces, hbody, hwire⟩ := underway_complete hrun
  refine ⟨hok, _, hwire, fun hone => ⟨?_, fun hs => ?_⟩⟩
  · have hboth := both_fields body (!g.isCommitted) hone
    simpa using hboth
  · have hread := read_written (choose_open g.head body (!g.isCommitted)) pieces
    rw [← hbody] at hread
    have hsaid := announced_chunks body (!g.isCommitted) hone hs
    have hnot : ¬ ((choose g.head body (!g.isCommitted)).1 = .chunked ∧ g.isCommitted = false) := by
      rintro ⟨hc, hg⟩
      rw [hg] at hc
      exact absurd ((choose_whole g.head body).symm.trans hc) (by decide)
    -- Chunks are written or announced by the given coding, but never both at once.
    rw [hread, hsaid]
    grind

/-- A coding of the application is replaced where the body goes out in chunks. -/
theorem announced_framing_streamed :
    let start := { Generator.new (Framing.pending, ({} : Writer)) 8 with omitBody := false }
    let ops : List ResponseOp := [.header "transfer-encoding" "gzip", .write [97, 98, 99], .flush, .write [100]]
    let g := run ops start
    let given := g.head.headers
    let body := accepted ops start []
    let headers := (choose g.head body (!g.isCommitted)).2
    let r := g.perform .complete
    (({} : Writer).Willing ∧ (∀ op ∈ ops, op.isAside = false ∧ op ≠ .complete) ∧
      given.values contentLength = []) ∧
    r.1 = .ok () ∧ ∃ after : Octets, r.2.sink.2.octets = headOctets g.head headers ++ after ∧
      (headers.values contentLength ≠ [] ∧ headers.values transferEncoding ≠ [] ↔
        given.values transferEncoding ≠ [] ∧ g.isCommitted = false ∧ g.head.status.isBodiless = false) ∧
      (g.head.status.isBodiless = false →
        ((Chunk.read? after = some (body, []) ↔ "chunked" ∈ headers.values transferEncoding) ↔
          ¬ ("chunked" ∈ given.values transferEncoding ∧ g.isCommitted = false))) := by
  intro start ops g given body headers r
  have hw : ({} : Writer).Willing := ⟨rfl, fun _ => rfl⟩
  have hops : ∀ op ∈ ops, op.isAside = false ∧ op ≠ .complete := by simp [ops, ResponseOp.isAside]
  have hgiven : given.values contentLength = [] := by decide +kernel
  have h := announced_framing {} hw rfl 8 false ops hops
  simp only [r, headers, body, given, g, start] at hgiven h ⊢
  obtain ⟨hok, after, hwire, hsays⟩ := h
  exact ⟨⟨hw, hops, hgiven⟩, hok, after, hwire, hsays (.inl hgiven)⟩

/-- A counted length beside the chunked coding that the application gave, and a body without chunks. -/
theorem length_beside_coding :
    let g := run [.header "Transfer-Encoding" "chunked", .write [97, 98, 99], .complete]
      (Generator.new (Framing.pending, ({} : Writer)) 16)
    let given := g.head.headers
    let headers := given.set contentLength "3"
    given.values contentLength = [] ∧ g.head.status.isBodiless = false ∧
      g.sink.2.octets = headOctets g.head headers ++ [97, 98, 99] ∧
      headers.values contentLength = ["3"] ∧ headers.values transferEncoding = ["chunked"] ∧
      Chunk.read? [97, 98, 99] ≠ some ([97, 98, 99], []) := by
  intro g given headers
  have hread : Chunk.read? [97, 98, 99] ≠ some ([97, 98, 99], []) :=
    fun hr => Nat.lt_irrefl _ (Chunk.read_length hr)
  refine ⟨?_, ?_, ?_, ?_, ?_, hread⟩ <;> decide +kernel

end Generator

end FramedHttp
