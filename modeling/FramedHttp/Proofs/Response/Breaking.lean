import FramedHttp.Proofs.Response.Account
import FramedHttp.Proofs.Response.Following

/-!
# Sinks that break off

A second sink answers as a first one does until it breaks off: then it fails, while the first goes on, and
whatever either of them is handed afterwards, what holds between the two at that point stays. A response over
the one goes call by call as over the other, up to the call in which its sink breaks off.
-/

set_option autoImplicit false

namespace FramedHttp

variable {σ τ : Type} [Sink σ] [Sink τ]

/-- The sink `f s` answers as `s` does until `s` is past what it can follow. Then it fails, and the two are left
apart for good. -/
structure BreaksOff (past : σ → Prop) (f : σ → τ) (cause : τ → IoError) (Apart : σ → τ → Prop) : Prop
    extends FollowsUntil past f where
  fails : ∀ {s : σ} {e : Emission}, ¬ past s → past (Sink.emit e s).2 →
    (Sink.emit e (f s)).1 = .error (.io (cause (Sink.emit e (f s)).2)) ∧
      Apart (Sink.emit e s).2 (Sink.emit e (f s)).2
  ahead : ∀ {s : σ} {t : τ}, Apart s t → ∀ e, Apart (Sink.emit e s).2 t
  behind : ∀ {s : σ} {t : τ}, Apart s t → ∀ e, Apart s (Sink.emit e t).2

namespace Generator

/-- What the operations of a run answer, one after the other. -/
def answers : List ResponseOp → Generator σ → List (Except EngineError Unit)
  | [], _ => []
  | op :: ops, g => (g.perform op).1 :: answers ops (g.perform op).2

variable {past : σ → Prop} {f : σ → τ} {cause : τ → IoError} {Apart : σ → τ → Prop} {g : Generator σ}

/-- The call fails over the sink that broke off, and leaves the two sinks apart. -/
def BrokenOff (cause : τ → IoError) (Apart : σ → τ → Prop) (r : Outcome EngineError (Generator σ))
    (r' : Outcome EngineError (Generator τ)) : Prop :=
  r'.1 = .error (.io (cause r'.2.sink)) ∧ Apart r.2.sink r'.2.sink

section Breaks

variable (h : BreaksOff past f cause Apart)
include h

theorem emit_breaks {e : Emission} (hn : ¬ past g.sink) (hp : past (g.emit e).2.sink) :
    BrokenOff cause Apart (g.emit e) ((g.mapSink f).emit e) :=
  h.fails hn hp

/-- Over the sink that broke off the end is not reached; over the other one it may be. -/
theorem andThen_close_breaks {r : Outcome EngineError (Generator σ)} {r' : Outcome EngineError (Generator τ)}
    (hf : ¬ past r.2.sink → r.mapState (mapSink f) = r') (hb : past r.2.sink → BrokenOff cause Apart r r')
    (hp : past (r.andThen close).2.sink) : BrokenOff cause Apart (r.andThen close) (r'.andThen close) := by
  by_cases hr : past r.2.sink
  · obtain ⟨he, ha⟩ := hb hr
    obtain ⟨_ | _, k⟩ := r'
    · exact ⟨he, andThen_close_keeps (P := fun g => Apart g.sink k.sink) ha (h.ahead ha .finish)⟩
    · cases he
  · rw [← hf hr]
    obtain ⟨_ | _, k⟩ := r
    · exact absurd hp hr
    · exact emit_breaks h (g := { k with phase := .completed }) hr hp

theorem flush_breaks (hn : ¬ past g.sink) (hp : past g.flush.2.sink) :
    BrokenOff cause Apart g.flush (g.mapSink f).flush := by
  rcases flush_cases g with hi | ⟨ho, hb⟩ | ⟨hc, hb⟩
  · rw [flush_idle hi] at hp
    exact absurd hp hn
  · rw [flush_opened ho hb] at hp ⊢
    rw [flush_opened (g := g.mapSink f) ho hb]
    exact emit_breaks h (g := { g with buffer := [], phase := .committed }) hn hp
  · rw [flush_committed hc hb] at hp ⊢
    rw [flush_committed (g := g.mapSink f) hc hb]
    exact emit_breaks h (g := { g with buffer := [] }) hn hp

theorem write_breaks {data : Octets} (hn : ¬ past g.sink) (hp : past (g.write data).2.sink) :
    BrokenOff cause Apart (g.write data) ((g.mapSink f).write data) := by
  rcases write_cases g data with hc | ⟨hc, ho⟩ | ⟨hc, ho, hcap⟩ | ⟨hc, ho, hcap⟩
  · rw [write_completed hc] at hp
    exact absurd hp hn
  · rw [write_omitted hc ho] at hp
    exact absurd hp hn
  · rw [write_full hc ho hcap] at hp ⊢
    rw [write_full (g := g.mapSink f) hc ho hcap]
    exact flush_breaks h (g := { g with buffer := g.buffer ++ data }) hn hp
  · rw [write_short hc ho hcap] at hp
    exact absurd hp hn

theorem complete_breaks (hn : ¬ past g.sink) (hp : past g.complete.2.sink) :
    BrokenOff cause Apart g.complete (g.mapSink f).complete := by
  rcases complete_cases g with hc | hc | ⟨hc, hb⟩ | ⟨hc, hb⟩
  · rw [complete_idle hc] at hp
    exact absurd hp hn
  · rw [complete_opened hc] at hp ⊢
    rw [complete_opened (g := g.mapSink f) hc]
    exact andThen_close_breaks h (commit_follows h.toFollowsUntil)
      (emit_breaks h (g := { g with buffer := [], phase := .committed }) hn) hp
  · rw [complete_drained hc hb] at hp ⊢
    rw [complete_drained (g := g.mapSink f) hc hb]
    exact emit_breaks h (g := { g with phase := .completed }) hn hp
  · rw [complete_left hc hb] at hp ⊢
    rw [complete_left (g := g.mapSink f) hc hb]
    exact andThen_close_breaks h (emitBuffer_follows h.toFollowsUntil)
      (emit_breaks h (g := { g with buffer := [] }) hn) hp

theorem informational_breaks {code : Nat} (hn : ¬ past g.sink)
    (hp : past (g.perform (.informational code)).2.sink) :
    BrokenOff cause Apart (g.perform (.informational code)) ((g.mapSink f).perform (.informational code)) := by
  simp only [perform, withStatus] at hp ⊢
  cases hs : Status.ofCode code with
  | error e =>
    rw [hs] at hp
    exact absurd hp hn
  | ok status =>
    rw [hs] at hp
    simp only [informational] at hp ⊢
    by_cases hi : status.isInformational = true
    · have hm : (g.mapSink f).phase = g.phase := rfl
      rw [if_pos hi] at hp
      rw [if_pos hi, if_pos hi, hm]
      cases hg : g.phase with
      | opened =>
        rw [hg] at hp
        exact emit_breaks h hn hp
      | committed =>
        rw [hg] at hp
        exact absurd hp hn
      | completed =>
        rw [hg] at hp
        exact absurd hp hn
    · rw [if_neg hi] at hp
      exact absurd hp hn

/-- The call in which the sink breaks off. -/
theorem direct_breaks {op : ResponseOp} (hd : op.isDirect = true) (hn : ¬ past g.sink)
    (hp : past (g.perform op).2.sink) : BrokenOff cause Apart (g.perform op) ((g.mapSink f).perform op) := by
  rcases op.kinds with hc | hv | ha | rfl
  · rw [perform_headChange hc, changeHead] at hp
    split at hp <;> exact absurd hp hn
  · cases op with
    | write data => exact write_breaks h hn hp
    | flush => exact flush_breaks h hn hp
    | complete => exact complete_breaks h hn hp
    | streamWrite | streamFlush => cases hd
    | _ => cases hv
  · cases op with
    | informational code => exact informational_breaks h hn hp
    | raw octets => exact emit_breaks h hn hp
    | _ => cases ha
  · change past g.reset.2.sink at hp
    unfold reset at hp
    split at hp <;> exact absurd hp hn

variable (hσ : ∀ s : σ, Sink.interruptions s = 0) (hτ : ∀ t : τ, Sink.interruptions t = 0)
include hσ hτ

theorem perform_follows_once {op : ResponseOp} (hn : ¬ past (g.perform op).2.sink) :
    (g.perform op).mapState (mapSink f) = (g.mapSink f).perform op := by
  rw [perform_call (hσ _)] at hn ⊢
  rw [perform_call (hτ _)]
  cases hc : op.call? with
  | none => rfl
  | some c =>
    simp only [hc, Outcome.mapError_snd] at hn
    have hf := perform_follows h.toFollowsUntil (ResponseOp.direct_call? hc) hn
    dsimp only
    rw [← hf]
    rcases g.perform c with ⟨_ | _, k⟩ <;> rfl

theorem perform_breaks {op : ResponseOp} (hn : ¬ past g.sink) (hp : past (g.perform op).2.sink) :
    BrokenOff cause Apart (g.perform op) ((g.mapSink f).perform op) := by
  rw [perform_call (hσ _)] at hp ⊢
  rw [perform_call (hτ _)]
  cases hc : op.call? with
  | none =>
    rw [hc] at hp
    exact absurd hp hn
  | some c =>
    simp only [hc, Outcome.mapError_snd] at hp
    obtain ⟨he, ha⟩ := direct_breaks h (ResponseOp.direct_call? hc) hn hp
    unfold BrokenOff
    simp only [Outcome.mapError_snd]
    constructor
    · rcases hr : (g.mapSink f).perform c with ⟨e | _, k⟩ <;> rw [hr] at he
      · have hio : e = .io (cause k.sink) := Except.error.inj he
        rw [hio]
        exact congrArg Except.error (op.report_io _)
      · cases he
    · exact ha

/-- A response whose sink is not past what the other can follow goes alike over both, with the same answers. -/
theorem run_follows_once {ops : List ResponseOp} (hn : ¬ past (run ops g).sink) :
    run ops (g.mapSink f) = (run ops g).mapSink f ∧ answers ops (g.mapSink f) = answers ops g := by
  induction ops generalizing g with
  | nil => exact ⟨rfl, rfl⟩
  | cons op ops ih =>
    have hop : ¬ past (g.perform op).2.sink := fun hp =>
      hn ((sink_persists (P := past) fun hs e => h.stays hs e).run hp ops)
    have hf := perform_follows_once h hσ hτ hop
    have hs : (g.perform op).2.mapSink f = ((g.mapSink f).perform op).2 := congrArg Prod.snd hf
    have ha : (g.perform op).1 = ((g.mapSink f).perform op).1 := congrArg Prod.fst hf
    obtain ⟨hr, hrest⟩ := ih hn
    rw [run, run, answers, answers, ← hs, ← ha, hr, hrest]
    exact ⟨rfl, rfl⟩

/-- A run that takes its sink past what the other can follow: up to one of its operations both went alike, and in
that operation the other sink broke off. -/
theorem run_breaks {ops : List ResponseOp} (hn : ¬ past g.sink) (hp : past (run ops g).sink) :
    ∃ before op after, ops = before ++ op :: after ∧ ¬ past (run before g).sink ∧
      past (run (before ++ [op]) g).sink ∧
      BrokenOff cause Apart ((run before g).perform op) ((run before (g.mapSink f)).perform op) ∧
      Apart (run ops g).sink (run ops (g.mapSink f)).sink := by
  induction ops generalizing g with
  | nil => exact absurd hp hn
  | cons op ops ih =>
    by_cases hop : past (g.perform op).2.sink
    · have hb := perform_breaks h hσ hτ hn hop
      have hahead := (sink_persists (P := fun s => Apart s _) fun hs e => h.ahead hs e).run hb.2 ops
      have hbehind := (sink_persists (P := fun t => Apart _ t) fun ht e => h.behind ht e).run hahead ops
      exact ⟨[], op, ops, rfl, hn, hop, hb, hbehind⟩
    · have hs : (g.perform op).2.mapSink f = ((g.mapSink f).perform op).2 :=
        congrArg Prod.snd (perform_follows_once h hσ hτ hop)
      obtain ⟨before, op', after, rfl, hbefore, hafter, hb, ha⟩ := ih hop hp
      rw [hs] at hb ha
      exact ⟨op :: before, op', after, rfl, hbefore, hafter, hb, ha⟩

end Breaks

end Generator

end FramedHttp
