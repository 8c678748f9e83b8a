import FramedHttp.Proofs.Response.Moves

/-!
# Sinks that follow another one

A second sink follows a first if it answers alike and is left as the first one is, seen through a map. It
may do so only as long as the first is not broken. A response over the first sink then goes, call by call,
as the same response over the second, up to the call in which the first breaks.
-/

set_option autoImplicit false

namespace FramedHttp

variable {σ τ : Type} [Sink σ] [Sink τ]

/-- The sink `f s` answers as `s` does, until `s` breaks; then it stays broken. -/
structure FollowsUntil (broken : σ → Prop) (f : σ → τ) : Prop where
  stays : ∀ {s : σ}, broken s → ∀ e, broken (Sink.emit e s).2
  emit : ∀ {s : σ} {e : Emission}, ¬ broken (Sink.emit e s).2 →
    (Sink.emit e s).mapState f = Sink.emit e (f s)

namespace Generator

variable {broken : σ → Prop} {f : σ → τ} {g k : Generator σ}

omit [Sink σ] [Sink τ] in
theorem changeHead_mapSink (change : ResponseHead → ResponseHead) (g : Generator σ) :
    (g.changeHead change).mapSink f = (g.mapSink f).changeHead change := by
  by_cases hp : g.phase = .opened
  · rw [changeHead_opened hp, changeHead_opened (by exact hp)]
    rfl
  · rw [changeHead_fixed hp, changeHead_fixed (by exact hp)]

omit [Sink σ] [Sink τ] in
theorem reset_mapSink (g : Generator σ) : g.reset.mapState (mapSink f) = (g.mapSink f).reset := by
  by_cases hp : g.phase = .opened
  · rw [reset_opened hp, reset_opened (by exact hp)]
    rfl
  · rw [reset_fixed hp, reset_fixed (by exact hp)]
    rfl

omit [Sink σ] [Sink τ] in
/-- What is accepted does not depend on the sink. -/
theorem accept_mapSink (op : ResponseOp) (g : Generator σ) (octets : Octets) :
    accept op (g.mapSink f) octets = accept op g octets := by
  cases op with
  | reset =>
    simp only [accept, ← reset_mapSink, Outcome.mapState_fst]
  | _ => rfl

section Follows

variable (h : FollowsUntil broken f)
include h

omit [Sink τ] h in
theorem move_broken (hs : ∀ {s : σ}, broken s → ∀ e, broken (Sink.emit e s).2) {x y : Generator σ × Octets}
    (hm : Move x y) (hb : broken x.1.sink) : broken y.1.sink := by
  cases hm with
  | commit => exact hs hb _
  | emitBuffer => exact hs hb _
  | close => exact hs hb _
  | aside => exact hs hb _
  | _ => exact hb

/-- A response does not mend its sink. -/
theorem moves_broken {x y : Generator σ × Octets} (hm : Moves x y) (hb : broken x.1.sink) :
    broken y.1.sink := by
  induction hm with
  | refl => exact hb
  | tail _ hm ih => exact move_broken h.stays hm ih

theorem emit_follows {e : Emission} (hu : ¬ broken (g.emit e).2.sink) :
    (g.emit e).mapState (mapSink f) = (g.mapSink f).emit e := by
  have he : Sink.emit e (g.mapSink f).sink = (Sink.emit e g.sink).mapState f := (h.emit hu).symm
  simp only [emit, he]
  rfl

theorem commit_follows {last : Bool} (hu : ¬ broken (g.commit last).2.sink) :
    (g.commit last).mapState (mapSink f) = (g.mapSink f).commit last :=
  emit_follows h (g := { g with buffer := [], phase := .committed }) hu

theorem emitBuffer_follows {last : Bool} (hu : ¬ broken (g.emitBuffer last).2.sink) :
    (g.emitBuffer last).mapState (mapSink f) = (g.mapSink f).emitBuffer last :=
  emit_follows h (g := { g with buffer := [] }) hu

theorem close_follows (hu : ¬ broken g.close.2.sink) :
    g.close.mapState (mapSink f) = (g.mapSink f).close :=
  emit_follows h (g := { g with phase := .completed }) hu

/-- The end of a response follows what was said before it. -/
theorem andThen_close_follows {r : Outcome EngineError (Generator σ)} {r' : Outcome EngineError (Generator τ)}
    (hr : ¬ broken r.2.sink → r.mapState (mapSink f) = r') (hu : ¬ broken (r.andThen close).2.sink) :
    (r.andThen close).mapState (mapSink f) = r'.andThen close := by
  obtain ⟨e | _, k⟩ := r
  · rw [← hr hu]
    rfl
  · have hk : ¬ broken k.sink := fun hb => hu (h.stays hb .finish)
    rw [← hr hk]
    exact close_follows h hu

theorem flush_follows (hu : ¬ broken g.flush.2.sink) :
    g.flush.mapState (mapSink f) = (g.mapSink f).flush := by
  rcases flush_cases g with hi | ⟨hp, hb⟩ | ⟨hp, hb⟩
  · rw [flush_idle hi, flush_idle (g := g.mapSink f) hi]
    rfl
  · rw [flush_opened hp hb] at hu ⊢
    rw [flush_opened (g := g.mapSink f) hp hb, commit_follows h hu]
  · rw [flush_committed hp hb] at hu ⊢
    rw [flush_committed (g := g.mapSink f) hp hb, emitBuffer_follows h hu]

theorem write_follows {data : Octets} (hu : ¬ broken (g.write data).2.sink) :
    (g.write data).mapState (mapSink f) = (g.mapSink f).write data := by
  rcases write_cases g data with hp | ⟨hp, ho⟩ | ⟨hp, ho, hc⟩ | ⟨hp, ho, hc⟩
  · rw [write_completed hp, write_completed (g := g.mapSink f) hp]
    rfl
  · rw [write_omitted hp ho, write_omitted (g := g.mapSink f) hp ho]
    rfl
  · rw [write_full hp ho hc] at hu ⊢
    rw [write_full (g := g.mapSink f) hp ho hc]
    exact flush_follows h hu
  · rw [write_short hp ho hc, write_short (g := g.mapSink f) hp ho hc]
    rfl

theorem complete_follows (hu : ¬ broken g.complete.2.sink) :
    g.complete.mapState (mapSink f) = (g.mapSink f).complete := by
  rcases complete_cases g with hp | hp | ⟨hp, hb⟩ | ⟨hp, hb⟩
  · rw [complete_idle hp, complete_idle (g := g.mapSink f) hp]
    rfl
  · rw [complete_opened hp] at hu ⊢
    rw [complete_opened (g := g.mapSink f) hp]
    exact andThen_close_follows h (commit_follows h) hu
  · rw [complete_drained hp hb] at hu ⊢
    rw [complete_drained (g := g.mapSink f) hp hb]
    exact close_follows h hu
  · rw [complete_left hp hb] at hu ⊢
    rw [complete_left (g := g.mapSink f) hp hb]
    exact andThen_close_follows h (emitBuffer_follows h) hu

theorem informational_follows {status : Status} (hu : ¬ broken (g.informational status).2.sink) :
    (g.informational status).mapState (mapSink f) = (g.mapSink f).informational status := by
  unfold informational at hu ⊢
  by_cases hi : status.isInformational = true
  · have hm : (g.mapSink f).phase = g.phase := rfl
    rw [if_pos hi] at hu
    rw [if_pos hi, if_pos hi, hm]
    cases hp : g.phase with
    | opened =>
      rw [hp] at hu
      exact emit_follows h hu
    | committed => rfl
    | completed => rfl
  · rw [if_neg hi, if_neg hi]
    rfl

omit [Sink σ] [Sink τ] h in
/-- What follows for every status follows for every code. -/
theorem withStatus_follows {code : Nat} {act : Status → Generator σ → Outcome EngineError (Generator σ)}
    {act' : Status → Generator τ → Outcome EngineError (Generator τ)}
    (ha : ∀ status, ¬ broken (act status g).2.sink → (act status g).mapState (mapSink f) = act' status (g.mapSink f))
    (hu : ¬ broken (withStatus code act g).2.sink) :
    (withStatus code act g).mapState (mapSink f) = withStatus code act' (g.mapSink f) := by
  unfold withStatus at hu ⊢
  cases hc : Status.ofCode code with
  | ok status =>
    rw [hc] at hu
    exact ha status hu
  | error e => rfl

/-- A call over the sink that is followed, unless the sink is broken after it. -/
theorem perform_follows {op : ResponseOp} (hd : op.isDirect = true) (hu : ¬ broken (g.perform op).2.sink) :
    (g.perform op).mapState (mapSink f) = (g.mapSink f).perform op := by
  have hhead : ∀ change, Outcome.mapState (ε := EngineError) (mapSink f) (.ok (), g.changeHead change) =
      (.ok (), (g.mapSink f).changeHead change) := by
    intro change
    rw [← changeHead_mapSink]
    rfl
  cases op with
  | status code =>
    change (withStatus code (fun s k => (.ok (), k.setStatus s)) g).mapState (mapSink f) =
      withStatus code (fun s k => (.ok (), k.setStatus s)) (g.mapSink f)
    exact withStatus_follows (fun s _ => hhead fun head => { head with status := s }) hu
  | reason text => exact hhead _
  | version v => exact hhead _
  | header name value => exact hhead _
  | addHeader name value => exact hhead _
  | write data => exact write_follows h hu
  | flush => exact flush_follows h hu
  | complete => exact complete_follows h hu
  | reset => exact reset_mapSink g
  | informational code => exact withStatus_follows (fun _ => informational_follows h) hu
  | raw octets => exact emit_follows h hu
  | streamWrite => cases hd
  | streamFlush => cases hd

/-- A run over the sink that is followed, unless the sink is broken after it: the response that it leaves
and the octets that it accepts are those of the run over the other sink. -/
theorem run_follows {ops : List ResponseOp} (hd : ∀ op ∈ ops, op.isDirect = true)
    (hu : ¬ broken (run ops g).sink) (octets : Octets) :
    (run ops g).mapSink f = run ops (g.mapSink f) ∧
      accepted ops g octets = accepted ops (g.mapSink f) octets := by
  induction ops generalizing g octets with
  | nil => exact ⟨rfl, rfl⟩
  | cons op ops ih =>
    have hrest : ∀ o ∈ ops, o.isDirect = true := fun o ho => hd o (by simp [ho])
    have hstep : ¬ broken (g.perform op).2.sink := by
      intro hb
      exact hu (moves_broken h (run_moves hrest _ octets) hb)
    have hp := perform_follows h (hd op (by simp)) hstep
    have hs : (g.perform op).2.mapSink f = ((g.mapSink f).perform op).2 := congrArg Prod.snd hp
    have hi := ih hrest hu (accept op g octets)
    rw [run, run, accepted, accepted, accept_mapSink, ← hs]
    exact hi

end Follows

section Unbroken

/-- A sink that never breaks and is interrupted as often as the one it follows. -/
structure FollowsAlways (f : σ → τ) : Prop extends FollowsUntil (fun _ => False) f where
  interruptions : ∀ s, Sink.interruptions (f s) = Sink.interruptions s

variable (h : FollowsAlways f)
include h

theorem writeThrough_follows (data : Octets) (tries : Nat) (g : Generator σ) :
    (g.writeThrough data tries).mapState (mapSink f) = (g.mapSink f).writeThrough data tries := by
  have hw : ∀ k : Generator σ, (k.write data).mapState (mapSink f) = (k.mapSink f).write data :=
    fun k => write_follows h.toFollowsUntil id
  induction tries generalizing g with
  | zero =>
    rw [writeThrough, writeThrough, ← hw g]
    rcases g.write data with ⟨_ | _, k⟩ <;> rfl
  | succ tries ih =>
    rw [writeThrough, writeThrough, ← hw g]
    rcases g.write data with ⟨e | _, k⟩
    · dsimp only [Outcome.mapState]
      split
      · exact ih k
      · rfl
    · rfl

/-- Every call, those of a byte stream included. -/
theorem perform_follows_always (op : ResponseOp) (g : Generator σ) :
    (g.perform op).mapState (mapSink f) = (g.mapSink f).perform op := by
  cases op with
  | streamWrite data =>
    change (g.streamWrite data).mapState (mapSink f) = (g.mapSink f).streamWrite data
    have hi : Sink.interruptions (g.mapSink f).sink = Sink.interruptions g.sink := h.interruptions g.sink
    rw [streamWrite, streamWrite, hi]
    split
    · rfl
    · exact writeThrough_follows h data _ g
  | streamFlush =>
    change (g.streamFlush).mapState (mapSink f) = (g.mapSink f).streamFlush
    rw [streamFlush, streamFlush, ← flush_follows h.toFollowsUntil id]
    rcases g.flush with ⟨_ | _, k⟩ <;> rfl
  | _ => exact perform_follows h.toFollowsUntil rfl id

theorem run_follows_always (ops : List ResponseOp) (g : Generator σ) :
    (run ops g).mapSink f = run ops (g.mapSink f) := by
  induction ops generalizing g with
  | nil => rfl
  | cons op ops ih =>
    have hop : (g.perform op).2.mapSink f = ((g.mapSink f).perform op).2 :=
      congrArg Prod.snd (perform_follows_always h op g)
    rw [run, run, ih, hop]

end Unbroken

end Generator

end FramedHttp
