import FramedHttp.Proofs.Response.Account
import FramedHttp.Proofs.Wire.Acts

/-!
# Transcripts

What a response leaves on a writer, whatever the writer answers: interim responses, the head chosen at the
commit, and the items of the body, each a piece of it or its end. A write fails on a full writer only, which
holds the first octets of all that follows as well. A flush fails behind what it was to flush, and nothing of
that is taken back: an end whose flush failed is written once more by the next completion.
-/

set_option autoImplicit false

namespace FramedHttp

/-- The pieces that some octets make, none if there are no octets. -/
def Octets.pieces (data : Octets) : List Octets :=
  if data.isEmpty then [] else [data]

/-- A chunk of any size, also the last one. -/
def Chunk.sized (data : Octets) : Octets :=
  sizeLine data ++ data ++ Octets.crlf

/-- An item of the body on the wire: a piece, or the end where there are no octets. -/
def Framing.item : Framing → Octets → Octets
  | .chunked, data => Chunk.sized data
  | _, data => data

theorem Octets.pieces_empty : Octets.pieces [] = [] := rfl

theorem Octets.pieces_of_ne_nil {data : Octets} (h : data ≠ []) : data.pieces = [data] :=
  if_neg (by simpa using h)

@[simp] theorem Octets.pieces_flatten (data : Octets) : data.pieces.flatten = data := by
  cases data <;> simp [pieces]

@[simp] theorem Octets.pieces_count (data : Octets) : data.pieces.count [] = 0 := by
  cases data <;> simp [pieces]

namespace Framing

theorem item_nil (framing : Framing) : framing.item [] = framing.ending := by
  cases framing <;> rfl

@[simp] theorem pieces_item (framing : Framing) (data : Octets) :
    data.pieces.flatMap framing.item = framing.piece data := by
  cases framing <;> cases data <;> simp [Octets.pieces, item, piece, Chunk.encode, Chunk.sized]

end Framing

namespace Writer

/-- What remains of some octets on a writer with no more room than this one. -/
def cut (w : Writer) (octets : Octets) : Octets :=
  match w.limit with
  | none => octets
  | some limit => octets.take limit

/-- The flush with this number fails, where nothing else does. -/
def Failing (w : Writer) (n : Nat) : Prop :=
  w.limit = none → w.flushFails n = true

/-- A writer that was handed these octets and flushed so often. -/
structure Kept (origin : Writer) (octets : Octets) (flushes : Nat) (w : Writer) : Prop where
  limit : w.limit = origin.limit
  flushFails : w.flushFails = origin.flushFails
  octets : w.octets = origin.cut octets
  flushes : origin.limit = none → w.flushes = flushes

variable {origin w : Writer} {x : Octets} {n : Nat}

theorem put_kept (h : Kept origin x n w) (data : Octets) : Kept origin (x ++ data) n (w.put data).2 := by
  have hoctets : w.octets ++ w.fitting data = origin.cut (x ++ data) := by
    rw [h.octets]
    cases hl : origin.limit with
    | none => simp [fitting, cut, h.limit, hl]
    | some limit =>
      have hroom : limit - min limit x.length = limit - x.length := by omega
      simp [fitting, cut, h.limit, hl, h.octets, List.take_append, hroom]
  unfold put
  split <;> exact ⟨h.limit, h.flushFails, hoctets, h.flushes⟩

/-- After a write that failed the writer is full, and anything may be added to what it was handed. -/
theorem put_failed (h : Kept origin x n w) (data : Octets) (e : EngineError) (he : (w.put data).1 = .error e) :
    origin.limit ≠ none ∧ ∀ more m, Kept origin (x ++ data ++ more) m (w.put data).2 := by
  have hfull : w.fits data = false := by
    unfold put at he
    split at he
    · cases he
    · exact Bool.eq_false_iff.mpr ‹_›
  have hk := put_kept h data
  cases hl : origin.limit with
  | none => simp [fits, h.limit, hl] at hfull
  | some limit =>
    constructor
    · exact Option.some_ne_none limit
    intro more m
    have hlen : limit ≤ (x ++ data).length := by
      simp [fits, h.limit, hl, h.octets, cut] at hfull
      simp only [List.length_append]
      omega
    have hmore : origin.cut (x ++ data ++ more) = origin.cut (x ++ data) := by
      simp only [cut, hl]
      exact List.take_append_of_le_length hlen
    exact ⟨hk.limit, hk.flushFails, hk.octets.trans hmore.symm,
      fun hn => absurd (hl.symm.trans hn) (Option.some_ne_none limit)⟩

theorem flush_kept (h : Kept origin x n w) :
    Kept origin x (n + 1) w.flush.2 ∧ ∀ e, w.flush.1 = .error e → origin.Failing n := by
  constructor
  · rw [flush_snd]
    exact ⟨h.limit, h.flushFails, h.octets, fun hn => congrArg (· + 1) (h.flushes hn)⟩
  · intro e he hn
    rw [← h.flushFails, ← h.flushes hn]
    unfold flush at he
    split at he
    · assumption
    · cases he

theorem play_puts (h : Kept origin x n w) (datas : List Octets) :
    Kept origin (x ++ datas.flatten) n (w.play (datas.map .put)).2 ∧
      ∀ e, (w.play (datas.map .put)).1 = .error e → origin.limit ≠ none ∧
        ∀ more m, Kept origin (x ++ datas.flatten ++ more) m (w.play (datas.map .put)).2 := by
  induction datas generalizing x w with
  | nil => exact ⟨by simpa [play] using h, nofun⟩
  | cons data datas ih =>
    have hk := put_kept h data
    have hfailed := put_failed h data
    simp only [List.map_cons, play, act, List.flatten_cons, ← List.append_assoc]
    rcases hr : w.put data with ⟨e | _, v⟩ <;> rw [hr] at hk hfailed
    · obtain ⟨hl, hmore⟩ := hfailed e rfl
      refine ⟨hmore _ n, fun _ _ => ⟨hl, fun more m => ?_⟩⟩
      rw [List.append_assoc (x ++ data)]
      exact hmore _ m
    · exact ih hk

/-- A flush behind all writes. -/
theorem play_puts_flush (h : Kept origin x n w) (datas : List Octets) :
    Kept origin (x ++ datas.flatten) (n + 1) (w.play (datas.map .put ++ [.flush])).2 ∧
      ∀ e, (w.play (datas.map .put ++ [.flush])).1 = .error e → origin.Failing n := by
  obtain ⟨hk, hfailed⟩ := play_puts h datas
  rw [play_append]
  rcases hr : w.play (datas.map .put) with ⟨e | _, v⟩ <;> rw [hr] at hk hfailed
  · obtain ⟨hl, hmore⟩ := hfailed e rfl
    have hend := hmore [] (n + 1)
    rw [List.append_nil] at hend
    exact ⟨hend, fun _ _ hn => absurd hn hl⟩
  · have hf : Outcome.andThen (.ok (), v) (play [.flush]) = v.flush := andThen_play_nil v.flush
    rw [hf]
    exact flush_kept hk

end Writer

open Writer

namespace Framing

variable {origin w : Writer} {x : Octets} {n : Nat} {framing : Framing} {s : Framing × Writer}

theorem pieceActs_puts (framing : Framing) (data : Octets) :
    ∃ datas : List Octets, framing.pieceActs data = datas.map .put ∧ datas.flatten = framing.piece data := by
  cases framing with
  | chunked =>
    by_cases hd : data.isEmpty = true
    · exact ⟨[], by simp [pieceActs, hd], by simp [piece, Chunk.encode, hd]⟩
    · exact ⟨[Chunk.sizeLine data, data, Octets.crlf], by simp [pieceActs, hd],
        by simp [piece, Chunk.encode, hd]⟩
  | _ => exact ⟨[data], rfl, List.append_nil data⟩

theorem endActs_puts (framing : Framing) :
    ∃ datas : List Octets, framing.endActs = datas.map .put ++ [.flush] ∧ datas.flatten = framing.ending := by
  cases framing with
  | chunked => exact ⟨[Chunk.terminator], rfl, List.append_nil _⟩
  | _ => exact ⟨[], rfl, rfl⟩

/-- The sink after these octets, with the end among them: it is reached unless the flush with this number fails. -/
structure Ended (origin : Writer) (x : Octets) (n : Nat) (framing : Framing)
    (r : Outcome EngineError (Framing × Writer)) : Prop where
  kept : Kept origin x (n + 1) r.2.2
  done : r.1 = .ok () → r.2.1 = .done
  failed : r.1 ≠ .ok () → r.2.1 = framing ∧ origin.Failing n

theorem settle_ended (h : Kept origin x n w) (datas : List Octets) (framing : Framing) :
    Ended origin (x ++ datas.flatten) n framing (settle framing .done (w.play (datas.map .put ++ [.flush]))) := by
  obtain ⟨hk, hfailed⟩ := play_puts_flush h datas
  generalize w.play (datas.map .put ++ [.flush]) = r at hk hfailed ⊢
  obtain ⟨e | _, v⟩ := r
  · exact ⟨hk, nofun, fun _ => ⟨rfl, hfailed e rfl⟩⟩
  · exact ⟨hk, fun _ => rfl, fun hn => absurd rfl hn⟩

theorem settle_kept (h : Kept origin x n w) (datas : List Octets) (framing : Framing) :
    (settle framing framing (w.play (datas.map .put))).2.1 = framing ∧
      Kept origin (x ++ datas.flatten) n (settle framing framing (w.play (datas.map .put))).2.2 := by
  rw [settle_self]
  exact ⟨rfl, (play_puts h datas).1⟩

theorem finish_ended (h : Kept origin x n s.2) (hf : s.1 = framing) (ho : framing.isOpen = true) :
    Ended origin (x ++ framing.ending) n framing (finish s) := by
  obtain ⟨f, w⟩ := s
  obtain rfl : f = framing := hf
  obtain ⟨datas, hacts, hflat⟩ := endActs_puts f
  rw [finish_acts ho, hacts, ← hflat]
  exact settle_ended h datas f

theorem body_kept (h : Kept origin x n s.2) (hf : s.1 = framing) (ho : framing.isOpen = true) (data : Octets) :
    (body data false s).2.1 = framing ∧ Kept origin (x ++ framing.piece data) n (body data false s).2.2 := by
  obtain ⟨f, w⟩ := s
  obtain rfl : f = framing := hf
  obtain ⟨datas, hacts, hflat⟩ := pieceActs_puts f data
  rw [body_acts ho, hacts, ← hflat]
  simpa using settle_kept h datas f

theorem body_ended (h : Kept origin x n s.2) (hf : s.1 = framing) (ho : framing.isOpen = true) (data : Octets) :
    Ended origin (x ++ framing.piece data ++ framing.ending) n framing (body data true s) := by
  obtain ⟨f, w⟩ := s
  obtain rfl : f = framing := hf
  obtain ⟨datas, hacts, hflat⟩ := pieceActs_puts f data
  obtain ⟨last, hlast, hend⟩ := endActs_puts f
  have hall := settle_ended h (datas ++ last) f
  rw [body_acts ho, hacts, hlast, ← hflat, ← hend]
  simpa [List.append_assoc] using hall

theorem headers_kept (h : Kept origin x n s.2) (hf : s.1 = .pending) (head : ResponseHead) (buffered : Octets) :
    let chosen := choose head buffered false
    (headers head buffered false s).2.1 = chosen.1 ∧
      Kept origin (x ++ headOctets head chosen.2 ++ chosen.1.piece buffered) n
        (headers head buffered false s).2.2 := by
  intro chosen
  obtain ⟨f, w⟩ := s
  obtain rfl : f = .pending := hf
  obtain ⟨datas, hacts, hflat⟩ := pieceActs_puts chosen.1 buffered
  have hall := settle_kept h (headOctets head chosen.2 :: datas) chosen.1
  rw [headers_acts, hacts, ← hflat]
  simpa using hall

theorem headers_ended (h : Kept origin x n s.2) (hf : s.1 = .pending) (head : ResponseHead) (buffered : Octets) :
    let chosen := choose head buffered true
    Ended origin (x ++ headOctets head chosen.2 ++ chosen.1.piece buffered ++ chosen.1.ending) n chosen.1
      (headers head buffered true s) := by
  intro chosen
  obtain ⟨f, w⟩ := s
  obtain rfl : f = .pending := hf
  obtain ⟨datas, hacts, hflat⟩ := pieceActs_puts chosen.1 buffered
  obtain ⟨last, hlast, hend⟩ := endActs_puts chosen.1
  have hall := settle_ended h (headOctets head chosen.2 :: (datas ++ last)) chosen.1
  rw [headers_acts, hacts, hlast, ← hflat, ← hend]
  simpa [List.append_assoc] using hall

theorem informational_kept (h : Kept origin x n s.2) (status : Status) :
    Kept origin (x ++ headOctets (.ofStatus status) .empty) (n + 1) (informational status s).2.2 := by
  obtain ⟨f, w⟩ := s
  have hacts : (w.put (headOctets (.ofStatus status) .empty)).andThen (·.flush) =
      w.play ([headOctets (.ofStatus status) .empty].map .put ++ [.flush]) :=
    congrArg (w.put (headOctets (.ofStatus status) .empty)).andThen
      (funext fun v => (andThen_play_nil v.flush).symm)
  have hk := (play_puts_flush h [headOctets (.ofStatus status) .empty]).1
  rw [List.flatten_singleton, ← hacts] at hk
  exact hk

/-- The items of a body in the framing chosen for it, and the framing it has come to. The end is written again
only if the flush behind it failed. -/
inductive Trail (failing : Nat → Prop) (chosen : Framing) : Framing → List Octets → Prop
  | start : Trail failing chosen chosen []
  | piece {items : List Octets} {data : Octets} (before : Trail failing chosen chosen items) (h : data ≠ []) :
      Trail failing chosen chosen (items ++ [data])
  | retry {items : List Octets} (before : Trail failing chosen chosen items) (h : failing (items.count [])) :
      Trail failing chosen chosen (items ++ [[]])
  | ended {items : List Octets} (before : Trail failing chosen chosen items) :
      Trail failing chosen .done (items ++ [[]])

namespace Trail

variable {failing : Nat → Prop} {chosen framing : Framing} {items : List Octets}

theorem pieces (h : Trail failing chosen chosen items) (data : Octets) :
    Trail failing chosen chosen (items ++ data.pieces) := by
  by_cases hd : data = []
  · rwa [hd, Octets.pieces_empty, List.append_nil]
  · rw [Octets.pieces_of_ne_nil hd]
    exact .piece h hd

/-- An end among the items and one more is that one, or it is among the items already. -/
theorem end_cases {before after : List Octets} {last : Octets} (hi : items ++ [last] = before ++ [] :: after) :
    (items = before ∧ last = [] ∧ after = []) ∨ ∃ rest, items = before ++ [] :: rest := by
  rcases List.eq_nil_or_concat after with rfl | ⟨rest, a, rfl⟩
  · obtain ⟨hbefore, hlast⟩ := List.append_inj' hi rfl
    exact .inl ⟨hbefore, List.singleton_inj.mp hlast, rfl⟩
  · rw [List.concat_eq_append, ← List.cons_append, ← List.append_assoc] at hi
    exact .inr ⟨rest, (List.append_inj' hi rfl).1⟩

/-- What stands behind an end, or an end that was not reached, tells that its flush failed. -/
theorem failing_before (hc : chosen ≠ .done) (h : Trail failing chosen framing items) {before after : List Octets}
    (hi : items = before ++ [] :: after) (hmore : framing ≠ .done ∨ after ≠ []) :
    failing (before.count []) := by
  induction h generalizing after with
  | start => exact absurd hi (by simp)
  | piece h hd ih =>
    rcases end_cases hi with ⟨_, hlast, _⟩ | ⟨rest, hrest⟩
    · exact absurd hlast hd
    · exact ih hrest (.inl hc)
  | retry h hf ih =>
    rcases end_cases hi with ⟨rfl, _, _⟩ | ⟨rest, hrest⟩
    · exact hf
    · exact ih hrest (.inl hc)
  | ended h ih =>
    rcases end_cases hi with ⟨_, _, hafter⟩ | ⟨rest, hrest⟩
    · exact absurd hmore (by simp [hafter])
    · exact ih hrest (.inl hc)

/-- Where the first flush of the end does not fail, there is at most one end, behind all pieces. -/
theorem one_end (hc : chosen ≠ .done) (h : Trail failing chosen framing items) (hf : ¬ failing 0) :
    ∃ pieces : List Octets, (∀ p ∈ pieces, p ≠ []) ∧ (items = pieces ∨ items = pieces ++ [[]]) := by
  by_cases he : [] ∈ items
  · obtain ⟨before, after, hi, hn⟩ := List.eq_append_cons_of_mem he
    have hfirst : before.count [] = 0 := List.count_eq_zero.mpr hn
    have hlast : after = [] := Classical.byContradiction fun ha => hf (hfirst ▸ failing_before hc h hi (.inr ha))
    exact ⟨before, fun p hp hempty => hn (hempty ▸ hp), .inr (hlast ▸ hi)⟩
  · exact ⟨items, fun p hp hempty => he (hempty ▸ hp), .inl rfl⟩

end Trail

/-- A sink behind a front and the items of a body. -/
structure Sent (origin : Writer) (front : Octets) (base : Nat) (chosen : Framing) (items : List Octets)
    (s : Framing × Writer) : Prop where
  trail : Trail (fun k => origin.Failing (base + k)) chosen s.1 items
  kept : Kept origin (front ++ items.flatMap chosen.item) (base + items.count []) s.2

variable {front : Octets} {base : Nat} {items : List Octets} {r : Outcome EngineError (Framing × Writer)}

/-- An end was written behind these items. -/
theorem Ended.sent
    (h : Ended origin (front ++ items.flatMap framing.item ++ framing.ending) (base + items.count []) framing r)
    (ht : Trail (fun k => origin.Failing (base + k)) framing framing items) :
    Sent origin front base framing (items ++ [[]]) r.2 := by
  have hk : Kept origin (front ++ (items ++ [[]]).flatMap framing.item) (base + (items ++ [[]]).count []) r.2.2 := by
    simpa [item_nil, Nat.add_assoc] using h.kept
  refine ⟨?_, hk⟩
  by_cases hok : r.1 = .ok ()
  · rw [h.done hok]
    exact .ended ht
  · rw [(h.failed hok).1]
    exact .retry ht (h.failed hok).2

end Framing

open Framing

/-- Interim responses, one behind the other. -/
def interimOctets (statuses : List Status) : Octets :=
  statuses.flatMap fun status => headOctets (.ofStatus status) .empty

namespace Generator

/-- What a response has left on its writer, and what it has accepted. -/
inductive Told (origin : Writer) (g : Generator (Framing × Writer)) (octets : Octets) : Prop
  | opened (interims : List Status) (phase : g.phase = .opened) (framing : g.sink.1 = .pending)
      (buffered : g.buffer = octets) (kept : Kept origin (interimOctets interims) interims.length g.sink.2)
  | begun (interims : List Status) (buffered : Octets) (last : Bool) (items : List Octets)
      (phase : g.phase ≠ .opened)
      (sent : Sent origin (interimOctets interims ++ headOctets g.head (choose g.head buffered last).2)
        interims.length (choose g.head buffered last).1 items g.sink)
      (accepted : items.flatten ++ g.buffer = octets)
      (committed : g.phase = .committed → g.sink.1 = (choose g.head buffered last).1)
      (completed : g.phase = .completed → g.buffer = [])

variable {origin : Writer} {g : Generator (Framing × Writer)} {octets : Octets}

/-- The end was handed over, and with it all that was buffered. -/
theorem told_ended {e : Emission} {interims : List Status} {buffered : Octets} {last : Bool}
    {items : List Octets} (hp : g.phase = .committed) (hb : g.buffer = [])
    (hr : Ended origin (interimOctets interims ++ headOctets g.head (choose g.head buffered last).2 ++
      items.flatMap (choose g.head buffered last).1.item ++ (choose g.head buffered last).1.ending)
      (interims.length + items.count []) (choose g.head buffered last).1 (Framing.emit e g.sink))
    (ht : Trail (fun k => origin.Failing (interims.length + k)) (choose g.head buffered last).1
      (choose g.head buffered last).1 items) :
    Told origin ((g.emit e).andThen close).2 items.flatten := by
  have hs := hr.sent ht
  have hflat : (items ++ [[]]).flatten ++ g.buffer = items.flatten := by simp [hb]
  by_cases hok : (Framing.emit e g.sink).1 = .ok ()
  · rw [emit_close_done hok (hr.done hok)]
    exact .begun interims buffered last _ nofun hs hflat nofun fun _ => hb
  · have hn : g.phase ≠ .opened := by simp [hp]
    rw [emit_close_failed hok]
    exact .begun interims buffered last _ hn hs hflat (fun _ => (hr.failed hok).1) fun _ => hb

theorem told_commit (h : Told origin g octets) (hp : g.phase = .opened) :
    Told origin (g.commit false).2 octets := by
  cases h with
  | opened interims _ hf hbuf hk =>
    obtain ⟨hreached, hkept⟩ := headers_kept hk hf g.head g.buffer
    have hsent : Sent origin (interimOctets interims ++ headOctets g.head (choose g.head g.buffer false).2)
        interims.length (choose g.head g.buffer false).1 g.buffer.pieces
        (Framing.headers g.head g.buffer false g.sink).2 :=
      ⟨hreached ▸ .pieces .start g.buffer, by simpa using hkept⟩
    have hflat : g.buffer.pieces.flatten ++ [] = octets := by simpa using hbuf
    exact .begun interims g.buffer false g.buffer.pieces nofun hsent hflat (fun _ => hreached) nofun
  | begun _ _ _ _ hn => exact absurd hp hn

theorem told_emitBuffer (h : Told origin g octets) (hp : g.phase = .committed) :
    Told origin (g.emitBuffer false).2 octets := by
  cases h with
  | opened _ ho => exact absurd (ho.symm.trans hp) nofun
  | begun interims buffered last items hn hs hacc hcommitted _ =>
    have hf := hcommitted hp
    have ht := hs.trail
    rw [hf] at ht
    obtain ⟨hreached, hkept⟩ := body_kept hs.kept hf (choose_open g.head buffered last) g.buffer
    have hsent : Sent origin (interimOctets interims ++ headOctets g.head (choose g.head buffered last).2)
        interims.length (choose g.head buffered last).1 (items ++ g.buffer.pieces)
        (Framing.body g.buffer false g.sink).2 :=
      ⟨hreached ▸ ht.pieces g.buffer, by simpa using hkept⟩
    have hflat : (items ++ g.buffer.pieces).flatten ++ [] = octets := by simpa using hacc
    exact .begun interims buffered last _ hn hsent hflat (fun _ => hreached)
      fun hc => absurd (hp.symm.trans hc) nofun

theorem told_complete (h : Told origin g octets) : Told origin g.complete.2 octets := by
  cases h with
  | opened interims hp hf hbuf hk =>
    have hr := headers_ended hk hf g.head g.buffer
    rw [complete_opened hp, ← hbuf, ← Octets.pieces_flatten g.buffer]
    exact told_ended (g := { g with buffer := [], phase := .committed }) rfl rfl
      (by simpa [Framing.emit] using hr) (.pieces .start g.buffer)
  | begun interims buffered last items hn hs hacc hcommitted hcompleted =>
    have ho := choose_open g.head buffered last
    rcases complete_cases g with hp | hp | ⟨hp, hb⟩ | ⟨hp, hb⟩
    · rw [complete_idle hp]
      exact .begun interims buffered last items hn hs hacc hcommitted hcompleted
    · exact absurd hp hn
    · have hf := hcommitted hp
      have hsent := (finish_ended hs.kept hf ho).sent (hf ▸ hs.trail)
      have hflat : (items ++ [[]]).flatten ++ g.buffer = octets := by simpa using hacc
      rw [complete_drained hp hb]
      exact .begun interims buffered last _ nofun hsent hflat nofun fun _ => hb
    · have hf := hcommitted hp
      have hr := body_ended hs.kept hf ho g.buffer
      rw [complete_left hp hb, ← hacc, ← Octets.pieces_flatten g.buffer, ← List.flatten_append]
      exact told_ended (g := { g with buffer := [] }) hp rfl (by simpa [Framing.emit] using hr)
        (.pieces (hf ▸ hs.trail) g.buffer)

theorem told_informational (h : Told origin g octets) (code : Nat) :
    Told origin (g.perform (.informational code)).2 octets := by
  rcases informational_cases code g with hg | ⟨hp, status, he⟩
  · rwa [hg]
  · rw [he]
    cases h with
    | opened interims _ hf hbuf hk =>
      have hi := informational_kept hk status
      have hkept : Kept origin (interimOctets (interims ++ [status])) (interims ++ [status]).length
          (Framing.informational status g.sink).2.2 := by
        simpa [interimOctets] using hi
      exact .opened (interims ++ [status]) hp hf hbuf hkept
    | begun _ _ _ _ hn => exact absurd hp hn

theorem told_accounts (origin : Writer) : Accounts (Told origin) where
  change {g _} h hp head := by
    cases h with
    | opened interims _ hf hbuf hk => exact .opened interims hp hf hbuf hk
    | begun _ _ _ _ hn => exact absurd hp hn
  reset {g _} h hp := by
    cases h with
    | opened interims _ hf _ hk => exact .opened interims hp hf rfl hk
    | begun _ _ _ _ hn => exact absurd hp hn
  gather {g _} h hp _ data := by
    cases h with
    | opened interims ho hf hbuf hk => exact .opened interims ho hf (congrArg (· ++ data) hbuf) hk
    | begun interims buffered last items hn hs hacc hcommitted _ =>
      have hmore := congrArg (· ++ data) hacc
      rw [List.append_assoc] at hmore
      exact .begun interims buffered last items hn hs hmore hcommitted fun hc => absurd hc hp
  commit h hp _ := told_commit h hp
  emitBuffer h hp _ := told_emitBuffer h hp

/-- What is on the writer after any operations, raw octets apart. -/
theorem told_run (w : Writer) (hw : w.octets = []) (hflushes : w.flushes = 0) (capacity : Nat) (omitBody : Bool)
    (ops : List ResponseOp) (hops : ∀ op ∈ ops, ∀ octets, op ≠ .raw octets) :
    let start := { Generator.new (Framing.pending, w) capacity with omitBody := omitBody }
    Told w (run ops start) (accepted ops start []) := by
  intro start
  have hcut : w.cut [] = [] := by
    unfold Writer.cut
    split <;> simp
  have hstart : Told w start [] :=
    .opened [] rfl rfl rfl ⟨rfl, rfl, hw.trans hcut.symm, fun _ => hflushes⟩
  apply (told_accounts w).run (fun _ => rfl) hstart
  intro op hm hx g octets h
  cases op with
  | complete => exact told_complete h
  | informational code => exact told_informational h code
  | raw octets => exact absurd rfl (hops _ hm octets)
  | _ => exact absurd hx (by simp [ResponseOp.isAside])

end Generator

end FramedHttp
