import FramedHttp.Proofs.Response.Following

/-!
# What a response hands to its sink

A tapped sink keeps a record of every emission that it is handed, whether or not it takes it. On record the
response proper is its headers, pieces of its body and its end, in this order, and each octet that was
accepted is on record once or still in the buffer, whatever the sink answers.
-/

set_option autoImplicit false

namespace FramedHttp

structure Tapped (σ : Type) where
  sink : σ
  /-- The emissions handed over so far, those that failed included. -/
  record : List Emission := []

namespace Tapped

variable {σ : Type}

/-- The emissions of the response proper. -/
def handed (t : Tapped σ) : List Emission :=
  t.record.filter fun e => e.kind?.isSome

def octets (t : Tapped σ) : Octets :=
  t.handed.flatMap Emission.octets

variable [Sink σ]

instance : Sink (Tapped σ) where
  emit e t := (Sink.emit e t.sink).mapState fun s => { sink := s, record := t.record ++ [e] }
  interruptions t := Sink.interruptions t.sink

theorem sink_follows : FollowsUntil (fun _ : Tapped σ => False) Tapped.sink where
  stays h _ := h
  emit _ := rfl

theorem sink_follows_always : Generator.FollowsAlways (Tapped.sink (σ := σ)) where
  toFollowsUntil := sink_follows
  interruptions _ := rfl

theorem handed_emit {e : Emission} (he : e.kind?.isSome = true) (t : Tapped σ) :
    (Sink.emit e t).2.handed = t.handed ++ [e] := by
  simp [Sink.emit, handed, he]

theorem handed_aside {e : Emission} (he : e.kind? = none) (t : Tapped σ) :
    (Sink.emit e t).2.handed = t.handed := by
  simp [Sink.emit, handed, he]

end Tapped

/-- What a response has handed over in each of its phases: nothing; then its headers and pieces of its body;
then also its end. Only headers that are the last of their response come without octets. -/
inductive HandOver : Phase → List Emission → Prop
  | opened : HandOver .opened []
  | committed (head : ResponseHead) (buffered : Octets) (last : Bool) (pieces : List (Octets × Bool))
      (hb : last = false → buffered ≠ []) (hp : ∀ p ∈ pieces, p.1 ≠ []) :
      HandOver .committed (.headers head buffered last :: pieces.map fun p => .body p.1 p.2)
  | completed (head : ResponseHead) (buffered : Octets) (last : Bool) (pieces : List (Octets × Bool))
      (hb : last = false → buffered ≠ []) (hp : ∀ p ∈ pieces, p.1 ≠ []) :
      HandOver .completed (.headers head buffered last :: (pieces.map fun p => .body p.1 p.2) ++ [.finish])

theorem handOver_opened {handed : List Emission} (h : HandOver .opened handed) : handed = [] := by
  cases h
  rfl

theorem handOver_body {handed : List Emission} (h : HandOver .committed handed) {chunk : Octets}
    (hc : chunk ≠ []) (last : Bool) : HandOver .committed (handed ++ [.body chunk last]) := by
  cases h with
  | committed head buffered last' pieces hb hp =>
    have hps : ∀ p ∈ pieces ++ [(chunk, last)], p.1 ≠ [] := by
      intro p hm
      rcases List.mem_append.mp hm with hm | hm
      · exact hp p hm
      · rwa [List.mem_singleton.mp hm]
    simpa using HandOver.committed head buffered last' (pieces ++ [(chunk, last)]) hb hps

theorem handOver_finish {handed : List Emission} (h : HandOver .committed handed) :
    HandOver .completed (handed ++ [.finish]) := by
  cases h with
  | committed head buffered last pieces hb hp => exact .completed head buffered last pieces hb hp

namespace Generator

variable {σ : Type}

/-- The response over its sink with an empty record. -/
def tapped (g : Generator σ) : Generator (Tapped σ) :=
  g.mapSink fun s => { sink := s }

variable [Sink σ]

section Handing

/-- The record of a response and the octets that it has accepted. -/
structure Handing (x : Generator (Tapped σ) × Octets) : Prop where
  order : HandOver x.1.phase x.1.sink.handed
  octets : x.1.sink.octets ++ x.1.buffer = x.2

variable {g : Generator (Tapped σ)} {octets : Octets}

theorem handing_commit (h : Handing (g, octets)) (hp : g.phase = .opened) {last : Bool}
    (hb : last = false → g.buffer ≠ []) : Handing ((g.commit last).2, octets) := by
  have hn : g.sink.handed = [] := handOver_opened (hp ▸ h.order)
  have hs : (g.commit last).2.sink.handed = [.headers g.head g.buffer last] := by
    have he := Tapped.handed_emit (e := .headers g.head g.buffer last) rfl g.sink
    rwa [hn, List.nil_append] at he
  have ho := h.octets
  simp only [Tapped.octets, hn, List.flatMap_nil, List.nil_append] at ho
  constructor
  · change HandOver .committed (g.commit last).2.sink.handed
    rw [hs]
    exact .committed g.head g.buffer last [] hb nofun
  · change (g.commit last).2.sink.octets ++ [] = octets
    simp [Tapped.octets, hs, Emission.octets, ho]

theorem handing_emitBuffer (h : Handing (g, octets)) (hp : g.phase = .committed) (hb : g.buffer ≠ [])
    (last : Bool) : Handing ((g.emitBuffer last).2, octets) := by
  have hs : (g.emitBuffer last).2.sink.handed = g.sink.handed ++ [.body g.buffer last] :=
    Tapped.handed_emit rfl g.sink
  have hc : HandOver .committed g.sink.handed := hp ▸ h.order
  constructor
  · change HandOver g.phase (g.emitBuffer last).2.sink.handed
    rw [hs, hp]
    exact handOver_body hc hb last
  · change (g.emitBuffer last).2.sink.octets ++ [] = octets
    have ho := h.octets
    simpa [Tapped.octets, hs, Emission.octets] using ho

theorem handing_close (h : Handing (g, octets)) (hp : g.phase = .committed) :
    Handing (g.close.2, octets) := by
  have hs : g.close.2.sink.handed = g.sink.handed ++ [.finish] := Tapped.handed_emit rfl g.sink
  have hc : HandOver .committed g.sink.handed := hp ▸ h.order
  constructor
  · change HandOver .completed g.close.2.sink.handed
    rw [hs]
    exact handOver_finish hc
  · change g.close.2.sink.octets ++ g.buffer = octets
    have ho := h.octets
    simpa [Tapped.octets, hs, Emission.octets] using ho

theorem handing_move {x y : Generator (Tapped σ) × Octets} (hm : Move x y) (h : Handing x) : Handing y := by
  cases hm with
  | change hp head => exact ⟨h.order, h.octets⟩
  | @reset g octets hp =>
    have hn : g.sink.handed = [] := handOver_opened (hp ▸ h.order)
    exact ⟨h.order, by simp [Tapped.octets, hn]⟩
  | @gather g octets hp ho data =>
    have hd : g.sink.octets ++ (g.buffer ++ data) = octets ++ data := by
      rw [← List.append_assoc]
      exact congrArg (· ++ data) h.octets
    exact ⟨h.order, hd⟩
  | commit hp last hb => exact handing_commit h hp hb
  | emitBuffer hp hb last => exact handing_emitBuffer h hp hb last
  | close hp hb => exact handing_close h hp
  | @aside g octets e he =>
    have hs : (g.emit e).2.sink.handed = g.sink.handed := Tapped.handed_aside he g.sink
    constructor
    · change HandOver g.phase (g.emit e).2.sink.handed
      rw [hs]
      exact h.order
    · change (g.emit e).2.sink.octets ++ g.buffer = octets
      rw [Tapped.octets, hs]
      exact h.octets

theorem handing_moves {x y : Generator (Tapped σ) × Octets} (hm : Moves x y) (h : Handing x) : Handing y := by
  induction hm with
  | refl => exact h
  | tail _ hm ih => exact handing_move hm ih

end Handing

section Bounded

/-- The buffer holds less than would be flushed. -/
def Bounded (g : Generator σ) : Prop :=
  g.buffer.length < g.capacity

variable {g : Generator σ}

theorem flush_buffer (hp : g.phase ≠ .completed) : g.flush.2.buffer = [] ∧ g.flush.2.capacity = g.capacity := by
  rcases flush_cases g with (hb | hc) | ⟨ho, hb⟩ | ⟨hc, hb⟩
  · rw [flush_idle (.inl hb)]
    exact ⟨hb, rfl⟩
  · exact absurd hc hp
  · rw [flush_opened ho hb]
    exact ⟨rfl, rfl⟩
  · rw [flush_committed hc hb]
    exact ⟨rfl, rfl⟩

omit [Sink σ] in
theorem bounded_empty {k : Generator σ} (h : Bounded g) (hb : k.buffer = []) (hc : k.capacity = g.capacity) :
    Bounded k := by
  have hg : g.buffer.length < g.capacity := h
  simp only [Bounded, hb, hc, List.length_nil]
  omega

theorem bounded_flush (h : Bounded g) : Bounded g.flush.2 := by
  by_cases hp : g.phase = .completed
  · rwa [flush_idle (.inr hp)]
  · obtain ⟨hb, hc⟩ := flush_buffer hp
    exact bounded_empty h hb hc

theorem bounded_write (h : Bounded g) (data : Octets) : Bounded (g.write data).2 := by
  rcases write_cases g data with hp | ⟨hp, ho⟩ | ⟨hp, ho, hc⟩ | ⟨hp, ho, hc⟩
  · rwa [write_completed hp]
  · rwa [write_omitted hp ho]
  · obtain ⟨hb, hcap⟩ := flush_buffer (g := { g with buffer := g.buffer ++ data }) hp
    rw [write_full hp ho hc]
    exact bounded_empty h hb hcap
  · rw [write_short hp ho hc]
    exact Nat.lt_of_not_le hc

theorem bounded_complete (h : Bounded g) : Bounded g.complete.2 := by
  rcases complete_cases g with hp | hp | ⟨hp, hb⟩ | ⟨hp, hb⟩
  · rwa [complete_idle hp]
  · rw [complete_opened hp]
    exact andThen_close_keeps (bounded_empty h rfl rfl) (bounded_empty h rfl rfl)
  · rw [complete_drained hp hb]
    exact h
  · rw [complete_left hp hb]
    exact andThen_close_keeps (bounded_empty h rfl rfl) (bounded_empty h rfl rfl)

theorem bounded_perform {op : ResponseOp} (hd : op.isDirect = true) (h : Bounded g) : Bounded (g.perform op).2 := by
  rcases op.kinds with hc | hv | ha | rfl
  · rw [perform_headChange hc, changeHead]
    split <;> exact h
  · cases op with
    | write data => exact bounded_write h data
    | flush => exact bounded_flush h
    | complete => exact bounded_complete h
    | streamWrite | streamFlush => cases hd
    | _ => cases hv
  · rcases aside_cases ha g with hk | ⟨e, _, hk⟩
    · rwa [hk]
    · rw [hk]
      exact h
  · change Bounded g.reset.2
    unfold reset
    split
    · exact bounded_empty h rfl rfl
    · exact h

theorem bounded_run {ops : List ResponseOp} (hd : ∀ op ∈ ops, op.isDirect = true) (h : Bounded g) :
    Bounded (run ops g) := by
  induction ops generalizing g with
  | nil => exact h
  | cons op ops ih => exact ih (fun o ho => hd o (by simp [ho])) (bounded_perform (hd op (by simp)) h)

theorem capacity_persists (n : Nat) : Persists fun g : Generator σ => g.capacity = n where
  change h _ _ := h
  reset h _ := h
  gather h _ _ := h
  commit h _ _ := h
  emitBuffer h _ _ := h
  close h _ := h
  aside h _ _ := h

end Bounded

/-- Whatever an application does to its response and whatever the sink answers to it, the sink is handed the
headers once, then pieces of the body, then once the end. What it was handed, taken or not, and what is
still buffered are the octets written before the completion since the last reset, in this order, and the
buffer stays below its capacity. The record changes nothing about the response. -/
theorem handed_over_once (sink : σ) (capacity : Nat) (omitBody : Bool) (ops : List ResponseOp) :
    let start : Generator σ := { Generator.new sink capacity with omitBody := omitBody }
    let calls := runCalls ops start
    let g := run calls start.tapped
    (∀ c ∈ calls, c.isDirect = true) ∧
    g.mapSink Tapped.sink = run ops start ∧
    HandOver g.phase g.sink.handed ∧
    g.sink.octets ++ g.buffer = accepted calls start [] ∧
    (omitBody = true → accepted calls start [] = []) ∧
    g.buffer.length < max capacity 1 := by
  intro start calls g
  have hd : ∀ c ∈ calls, c.isDirect = true := direct_runCalls ops start
  have hstart : Handing (start.tapped, []) := ⟨.opened, rfl⟩
  have hrun : Moves (start.tapped, []) (g, accepted calls start.tapped []) := run_moves hd start.tapped []
  have hg : Handing (g, accepted calls start.tapped []) := handing_moves hrun hstart
  obtain ⟨hsame, hacc⟩ := run_follows Tapped.sink_follows (g := start.tapped) hd not_false []
  have hplain : g.mapSink Tapped.sink = run ops start := by
    rw [← run_runCalls ops start]
    exact hsame
  have hbound : Bounded g := bounded_run hd (g := start.tapped) (Nat.lt_of_lt_of_le Nat.zero_lt_one (Nat.le_max_right _ _))
  have hcap : g.capacity = max capacity 1 := (capacity_persists _).run (g := start.tapped) rfl calls
  have hoctets : g.sink.octets ++ g.buffer = accepted calls start [] := hg.octets.trans hacc
  refine ⟨hd, hplain, hg.order, hoctets, fun ho => accepted_omitted ho calls, ?_⟩
  rw [← hcap]
  exact hbound

end Generator

end FramedHttp
