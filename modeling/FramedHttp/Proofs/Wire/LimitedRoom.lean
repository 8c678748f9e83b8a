import FramedHttp.Proofs.Response.Breaking
import FramedHttp.Proofs.Wire.Acts

/-!
# Writers with limited room

A writer with room for so many octets takes what a writer without a limit takes, up to the write that crosses
the limit. That write is cut short and fails, and from then on the writer is full. A response goes alike over
both up to the operation with that write; whatever it does afterwards, the limited writer holds the first octets
of what the other one holds.
-/

set_option autoImplicit false

namespace FramedHttp

namespace Writer

variable {room : Nat} {w v : Writer}

def limited (room : Nat) (w : Writer) : Writer :=
  { w with limit := some room }

/-- A writer without a limit that holds no more than so many octets. -/
structure Fits (room : Nat) (w : Writer) : Prop where
  free : w.limit = none
  short : w.octets.length ≤ room

/-- The second writer is full, with the first octets of the first one. -/
structure CutShort (room : Nat) (w v : Writer) : Prop where
  free : w.limit = none
  crossed : room < w.octets.length
  limit : v.limit = some room
  octets : v.octets = w.octets.take room

/-- A full writer keeps what it holds. -/
theorem put_full (hl : w.limit = some room) (hf : w.octets.length = room) (data : Octets) :
    (w.put data).2 = w := by
  have hnone : w.fitting data = [] := by simp [fitting, hl, hf]
  simp only [put, hnone, List.append_nil]
  split <;> rfl

theorem not_fits_act (h : ¬ Fits room w) (a : Act) : ¬ Fits room (w.act a).2 := by
  intro hf
  apply h
  cases a with
  | put data =>
    have hl : w.limit = none := by
      have := hf.free
      simp only [act, put] at this
      split at this <;> exact this
    have hs := hf.short
    simp only [act, put_free hl, List.length_append] at hs
    exact ⟨hl, by omega⟩
  | flush =>
    rw [act, flush_snd] at hf
    exact ⟨hf.free, hf.short⟩

theorem CutShort.ahead (h : CutShort room w v) (a : Act) : CutShort room (w.act a).2 v := by
  cases a with
  | put data =>
    have ho := h.crossed
    have hlen : room < (w.octets ++ data).length := by
      rw [List.length_append]
      omega
    have ht : v.octets = (w.octets ++ data).take room := by
      rw [List.take_append_of_le_length (by omega), h.octets]
    rw [act, put_free h.free]
    exact ⟨h.free, hlen, h.limit, ht⟩
  | flush =>
    rw [act, flush_snd]
    exact ⟨h.free, h.crossed, h.limit, h.octets⟩

theorem CutShort.behind (h : CutShort room w v) (a : Act) : CutShort room w (v.act a).2 := by
  cases a with
  | put data =>
    have hfull : v.octets.length = room := by
      have ho := h.crossed
      rw [h.octets, List.length_take]
      omega
    rwa [act, put_full h.limit hfull]
  | flush =>
    rw [act, flush_snd]
    exact ⟨h.free, h.crossed, h.limit, h.octets⟩

theorem CutShort.not_fits (h : CutShort room w v) : ¬ Fits room w := by
  intro hf
  have ho := h.crossed
  have hs := hf.short
  omega

/-- One act of the two writers: the same, or the one that is cut short. -/
theorem act_limited (h : Fits room w) (a : Act) :
    (Fits room (w.act a).2 ∧ (w.limited room).act a = (w.act a).mapState (limited room)) ∨
      (CutShort room (w.act a).2 ((w.limited room).act a).2 ∧
        ((w.limited room).act a).1 = .error (.io ((w.limited room).act a).2.fullError)) := by
  cases a with
  | put data =>
    simp only [act, put_free h.free]
    have hshort := h.short
    by_cases hfit : data.length ≤ room - w.octets.length
    · have hlen : (w.octets ++ data).length ≤ room := by
        rw [List.length_append]
        omega
      have ht : data.take (room - w.octets.length) = data := List.take_of_length_le hfit
      exact .inl ⟨⟨h.free, hlen⟩, by simp [put, fits, fitting, limited, hfit, ht, Outcome.mapState]⟩
    · have hlen : room < (w.octets ++ data).length := by
        rw [List.length_append]
        omega
      have ht : w.octets ++ data.take (room - w.octets.length) = (w.octets ++ data).take room := by
        rw [List.take_append, List.take_of_length_le hshort]
      have hput : (w.limited room).put data =
          (.error (.io (w.limited room).fullError),
            { w.limited room with octets := (w.octets ++ data).take room }) := by
        simp [put, fits, fitting, limited, hfit, ← ht]
      rw [hput]
      exact .inr ⟨⟨h.free, hlen, rfl, rfl⟩, rfl⟩
  | flush =>
    left
    simp only [act]
    constructor
    · rw [flush_snd]
      exact ⟨h.free, h.short⟩
    · by_cases hf : w.flushFails w.flushes = true <;> simp [flush, limited, hf, Outcome.mapState]

/-- What is played on both writers goes alike, or is cut short on the limited one. -/
theorem play_limited (h : Fits room w) (acts : List Act) :
    (Fits room (w.play acts).2 ∧ (w.limited room).play acts = (w.play acts).mapState (limited room)) ∨
      (CutShort room (w.play acts).2 ((w.limited room).play acts).2 ∧
        ((w.limited room).play acts).1 = .error (.io ((w.limited room).play acts).2.fullError)) := by
  induction acts generalizing w with
  | nil => exact .inl ⟨h, rfl⟩
  | cons a acts ih =>
    rw [play, play]
    rcases act_limited h a with ⟨hf, he⟩ | ⟨hc, he⟩
    · rw [he]
      rcases hr : w.act a with ⟨_ | _, u⟩
      · rw [hr] at hf
        exact .inl ⟨hf, rfl⟩
      · rw [hr] at hf
        exact ih hf
    · -- The limited writer stops here, while the other one may go on with the acts that are left.
      right
      rcases hr : (w.limited room).act a with ⟨e | _, u⟩ <;> rw [hr] at hc he
      · have hahead : CutShort room ((w.act a).andThen (play acts)).2 u :=
          Outcome.andThen_keeps (P := fun x => CutShort room x u) hc fun _ hs =>
            play_keeps (P := fun x => CutShort room x u) (fun ht b => ht.ahead b) hs acts
        exact ⟨hahead, he⟩
      · cases he

end Writer

namespace Framing

open Writer

variable {room : Nat} {s : Framing × Writer} {e : Emission}

/-- The same sink over a writer with limited room. -/
def limited (room : Nat) (s : Framing × Writer) : Framing × Writer :=
  (s.1, s.2.limited room)

theorem emit_limited (h : Fits room s.2) (e : Emission) :
    (Fits room (emit e s).2.2 ∧ emit e (limited room s) = (emit e s).mapState (limited room)) ∨
      (CutShort room (emit e s).2.2 (emit e (limited room s)).2.2 ∧
        (emit e (limited room s)).1 = .error (.io (emit e (limited room s)).2.2.fullError)) := by
  obtain ⟨framing, w⟩ := s
  unfold limited
  cases conduct e framing with
  | refused error he =>
    rw [he, he]
    exact .inl ⟨h, rfl⟩
  | acts during reached acts he =>
    rw [he, he, settle_snd_snd, settle_snd_snd]
    rcases play_limited h acts with ⟨hf, hl⟩ | ⟨hc, hl⟩
    · left
      rw [hl]
      constructor
      · exact hf
      · rcases w.play acts with ⟨_ | _, v⟩ <;> rfl
    · right
      constructor
      · exact hc
      · rcases hr : (w.limited room).play acts with ⟨_ | _, v⟩ <;> rw [hr] at hl
        · exact hl
        · cases hl

theorem limited_breaksOff (room : Nat) :
    BreaksOff (fun s : Framing × Writer => ¬ Fits room s.2) (limited room) (fun s => s.2.fullError)
      (fun s t => CutShort room s.2 t.2) where
  stays hs e := emit_keeps (P := fun w => ¬ Fits room w) not_fits_act hs e
  emit {s e} hn := by
    have hf : Fits room (emit e s).2.2 := Classical.not_not.mp hn
    have hs : Fits room s.2 := Classical.byContradiction fun hs =>
      emit_keeps (P := fun w => ¬ Fits room w) not_fits_act hs e hf
    rcases emit_limited hs e with ⟨_, he⟩ | ⟨hc, _⟩
    · exact he.symm
    · exact absurd hf hc.not_fits
  fails {s e} hn hp := by
    rcases emit_limited (Classical.not_not.mp hn) e with ⟨hf, _⟩ | ⟨hc, he⟩
    · exact absurd hf hp
    · exact ⟨he, hc⟩
  ahead {s t} h e := emit_keeps (P := fun w => CutShort room w t.2) (fun h a => h.ahead a) h e
  behind {s t} h e := emit_keeps (P := fun w => CutShort room s.2 w) (fun h a => h.behind a) h e

end Framing

namespace Generator

open Framing Writer

/-- A writer with limited room ends up with the first octets of what an unlimited writer takes from the same
operations, whatever these are. If that is all of it, the two responses are the same throughout. Otherwise they are
the same up to one operation, which fails for want of room: it is the first for which the room is too small. -/
theorem limited_room (room capacity : Nat) (omitBody takesNothing : Bool) (flushFails : Nat → Bool)
    (ops : List ResponseOp) :
    let w : Writer := { takesNothing := takesNothing, flushFails := flushFails }
    let start : Generator (Framing × Writer) :=
      { Generator.new (Framing.pending, w) capacity with omitBody := omitBody }
    let short := start.mapSink (Framing.limited room)
    let octets := (run ops start).sink.2.octets
    (run ops short).sink.2.octets = octets.take room ∧
    (octets.length ≤ room →
      answers ops short = answers ops start ∧ run ops short = (run ops start).mapSink (Framing.limited room)) ∧
    (room < octets.length →
      ∃ before op after, ops = before ++ op :: after ∧
        answers before short = answers before start ∧
        run before short = (run before start).mapSink (Framing.limited room) ∧
        (run before start).sink.2.octets.length ≤ room ∧
        room < (run (before ++ [op]) start).sink.2.octets.length ∧
        ((run before short).perform op).1 =
          .error (.io ((run before short).perform op).2.sink.2.fullError)) := by
  intro w start short octets
  have hbreaks := limited_breaksOff room
  have hfree : ∀ ops, (run ops start).sink.2.limit = none := fun ops =>
    (sink_persists (P := fun s : Framing × Writer => s.2.limit = none) fun hs e =>
      emit_keeps (fun {v} hv a => by
        cases a with
        | put data => rwa [act, put_free hv]
        | flush => rwa [act, flush_snd]) hs e).run (g := start) rfl ops
  have hstart : ¬ ¬ Fits room start.sink.2 := Classical.not_not.mpr ⟨rfl, Nat.zero_le room⟩
  have halike : ∀ {ops}, ¬ ¬ Fits room (run ops start).sink.2 →
      run ops short = (run ops start).mapSink (Framing.limited room) ∧ answers ops short = answers ops start :=
    fun hn => run_follows_once hbreaks (fun _ => rfl) (fun _ => rfl) hn
  by_cases hfits : Fits room (run ops start).sink.2
  · have hshort : octets.length ≤ room := hfits.short
    obtain ⟨hrun, hanswers⟩ := halike (Classical.not_not.mpr hfits)
    have htake : (run ops short).sink.2.octets = octets.take room := by
      rw [hrun, List.take_of_length_le hshort]
      rfl
    exact ⟨htake, fun _ => ⟨hanswers, hrun⟩, fun hlong => absurd hlong (Nat.not_lt.mpr hshort)⟩
  · obtain ⟨before, op, after, hops, hbefore, hpast, hb, ha⟩ :=
      run_breaks hbreaks (fun _ => rfl) (fun _ => rfl) hstart hfits
    obtain ⟨hrun, hanswers⟩ := halike hbefore
    have hlong : room < (run (before ++ [op]) start).sink.2.octets.length :=
      Nat.lt_of_not_le fun hle => hpast ⟨hfree _, hle⟩
    have hover : room < octets.length := ha.crossed
    exact ⟨ha.octets, fun hle => absurd hover (Nat.not_lt.mpr hle),
      fun _ => ⟨before, op, after, hops, hanswers, hrun, (Classical.not_not.mp hbefore).short, hlong, hb.1⟩⟩

end Generator

end FramedHttp
