import FramedHttp.Proofs.Exchange.Arrival
import FramedHttp.Proofs.Frame.Conversation

/-!
# What a worker keeps

A worker whose handler returns, whose frames are all taken and whose body comes in never waits: it makes a
step until it has finished, and by then its response is complete and its body is given up.
-/

set_option autoImplicit false

namespace FramedHttp

open Content Generator

/-- The handler returns: it never crashes. -/
def Handler.Returns (todo : Handler) : Prop :=
  ∀ line ∈ todo, line.instruction ≠ .crash

/-- What has been done by a stage, for a response in this phase and a body that is given up or not. -/
def WorkerStage.Due (phase : Phase) (discarding : Bool) : WorkerStage → Prop
  | .handling todo => Handler.Returns todo
  | .reading r _ _ todo => r.waits = false ∧ Handler.Returns todo
  | .responding _ => True
  | .disposing _ => phase = .completed
  | .finished _ => phase = .completed ∧ discarding = true
  | .crashed => False

namespace Worker

/-- A worker at a session that brings its body in, with a response over the link of that session. -/
structure Serving (x : Worker ReplyState × Served) : Prop where
  fed : Session.Fed x.2
  response : ∃ octets, Framed (x.1.response.mapSink fun sink => (sink, x.2.link)) octets

structure OnDuty (x : Worker ReplyState × Served) : Prop extends Serving x where
  due : x.1.stage.Due x.1.response.phase x.2.buffer.discarding

/-- The frames of the response are all it has on the link. -/
theorem framed_relink {g : Generator ReplyState} {l k : Link} {octets : Octets}
    (h : Framed (g.mapSink fun sink => (sink, l)) octets) (hk : k.Quiet) (hs : k.sent = l.sent) :
    Framed (g.mapSink fun sink => (sink, k)) octets where
  sends := hk.sends
  omitted := h.omitted
  conveyed := by
    change Conveyed g.phase g.sink k.sent g.buffer octets
    rw [hs]
    exact h.conveyed

theorem serving_read {w : Worker ReplyState} {s t : Served} {discarding : Bool} (h : Serving (w, s))
    (ht : Session.Read s.link.sent discarding t) : Serving (w, t) where
  fed := ht.fed
  response := by
    obtain ⟨octets, hf⟩ := h.response
    exact ⟨octets, framed_relink hf ht.fed.streaming.quiet ht.sent⟩

theorem serving_self {w : Worker ReplyState} {s : Served} (h : Serving (w, s)) :
    Session.Read s.link.sent s.buffer.discarding s :=
  ⟨h.fed, rfl, id⟩

/-- An operation that a response survives on a link that takes every frame. -/
structure Answers (f : Generator (ReplyState × Link) → Outcome EngineError (Generator (ReplyState × Link))) :
    Prop where
  framed : ∀ {g octets}, Framed g octets → ∃ more, Framed (f g).2 more
  quiet : ∀ {g}, g.sink.2.Quiet → (f g).2.sink.2.Quiet

theorem perform_answers (op : ResponseOp) : Answers (Generator.perform op) where
  framed h := ⟨_, framed_carries.perform h op fun ha => framed_aside h ha⟩
  quiet h := quiet_persists.perform h op

/-- The response in place of everything that was not committed. -/
theorem conclude_answers (outcome : Except EngineError Unit) :
    Answers (conclude outcome) := by
  cases outcome with
  | ok =>
    exact
      { framed := fun h => ⟨_, (framed_carries.complete_accept h).2⟩
        quiet := fun h => quiet_persists.complete h }
  | error e =>
    constructor
    · intro g octets h
      have hr := framed_carries.reset_accept h
      have hs := framed_carries.changeHead hr fun k => { k with status := .internalServerError }
      unfold conclude
      dsimp only
      split
      · exact ⟨_, (framed_carries.complete_accept h).2⟩
      · exact ⟨_, (framed_carries.complete_accept hs).2⟩
    · intro g h
      have hr := quiet_persists.resetAll h
      have hs := quiet_persists.changeHead hr fun k => { k with status := .internalServerError }
      unfold conclude
      dsimp only
      split
      · exact quiet_persists.complete h
      · exact quiet_persists.complete hs

theorem conclude_completed {g : Generator (ReplyState × Link)} {octets : Octets} (h : Framed g octets)
    (outcome : Except EngineError Unit) : (conclude outcome g).2.phase = .completed := by
  cases outcome with
  | ok => exact complete_completed (framed_carries.complete_accept h).1
  | error e =>
    have hr := framed_carries.reset_accept h
    have hs := framed_carries.changeHead hr fun k => { k with status := .internalServerError }
    unfold conclude
    dsimp only
    split
    · exact complete_completed (framed_carries.complete_accept h).1
    · exact complete_completed (framed_carries.complete_accept hs).1

theorem await_found {s : Served} {sent : List OutFrame} {discarding : Bool}
    (h : Session.Read sent discarding s) {waits : Bool} (hw : waits = false) :
    (Source.await waits s).1 ≠ .waiting := by
  have ha := (Session.await_read h waits).2 hw
  change ((s.await waits).1.mapError StreamError.toEngine) ≠ .waiting
  cases hr : (s.await waits).1 with
  | waiting => exact absurd hr ha
  | _ => nofun

variable {x : Worker ReplyState × Served} {catches : Bool} {todo : Handler} {purpose : Purpose}

theorem onResponse_serving
    {f : Generator (ReplyState × Link) → Outcome EngineError (Generator (ReplyState × Link))}
    (hf : Answers f) (h : Serving x) : Serving (onResponse f x).2 := by
  obtain ⟨octets, hr⟩ := h.response
  obtain ⟨more, hm⟩ := hf.framed hr
  exact ⟨h.fed.withLink (hf.quiet h.fed.streaming.quiet), more, hm⟩

theorem record_onDuty (h : Serving x) (ht : Handler.Returns todo) (result : Except EngineError Answer) :
    OnDuty (x.1.record result catches todo, x.2) := by
  have hdue : (x.1.record result catches todo).stage.Due
      (x.1.record result catches todo).response.phase x.2.buffer.discarding := by
    unfold record
    dsimp only
    split
    · exact ht
    · split
      · exact ht
      · trivial
  exact { fed := h.fed, response := h.response, due := hdue }

theorem respond_onDuty
    {f : Generator (ReplyState × Link) → Outcome EngineError (Generator (ReplyState × Link))}
    (hf : Answers f) (h : Serving x) (ht : Handler.Returns todo) : OnDuty (respond f catches todo x) :=
  record_onDuty (onResponse_serving hf h) ht _

theorem deliver_onDuty (h : Serving x) (ht : Handler.Returns todo) (result : Except EngineError Octets) :
    OnDuty (deliver purpose catches todo result x) := by
  unfold deliver
  split
  · next octets => exact respond_onDuty (perform_answers (.write octets)) h ht
  · exact record_onDuty h ht _
  · exact record_onDuty h ht _

theorem proceed_onDuty (h : Serving x) (ht : Handler.Returns todo) {p : Progress} (hp : p.Moving) :
    OnDuty (proceed purpose catches todo p x) := by
  cases p with
  | done result => exact deliver_onDuty h ht result
  | more r => exact { fed := h.fed, response := h.response, due := ⟨hp, ht⟩ }
  | waiting r => exact hp.elim

theorem perform_onDuty (h : Serving x) {line : HandlerLine} (hl : line.instruction ≠ .crash)
    (ht : Handler.Returns todo) : OnDuty (perform line todo x) := by
  unfold perform
  split
  · next op _ => exact respond_onDuty (perform_answers op) h ht
  · exact record_onDuty h ht _
  · exact record_onDuty h ht _
  · exact record_onDuty h ht _
  · exact record_onDuty h ht _
  · exact absurd ‹_› hl
  · exact proceed_onDuty h ht (start_moving _)
  · next op _ =>
    split
    · exact proceed_onDuty h ht (start_moving _)
    · have hr := immediate_keeps Session.read_serves (serving_self h) op
      exact record_onDuty (serving_read h hr) ht _

theorem step_onDuty {y : Worker ReplyState × Served} (h : OnDuty x) (hs : step x = some y) : OnDuty y := by
  have hdue := h.due
  unfold step at hs
  cases hstage : x.1.stage with
  | handling todo =>
    rw [hstage] at hs hdue
    cases todo with
    | nil =>
      cases hs
      exact { fed := h.fed, response := h.response, due := trivial }
    | cons line todo =>
      cases hs
      exact perform_onDuty h.toServing (hdue line (by simp)) fun k hk => hdue k (by simp [hk])
  | reading r purpose catches todo =>
    rw [hstage] at hs hdue
    obtain ⟨hw, ht⟩ := hdue
    have hr := step_keeps Session.read_serves.toReads (serving_self h.toServing) r
    have hm := step_moving (await_found (serving_self h.toServing) hw)
    rcases hp : r.step x.2 with ⟨p, t⟩
    rw [hp] at hr hm
    have hy : some (proceed purpose catches todo p (x.1, t)) = some y := by
      rw [← hs]
      cases p <;> simp [hp, hw]
    cases hy
    exact proceed_onDuty (serving_read h.toServing hr) ht hm
  | responding outcome =>
    rw [hstage] at hs
    cases hs
    obtain ⟨octets, hr⟩ := h.response
    have hv := onResponse_serving (conclude_answers outcome) h.toServing
    exact { fed := hv.fed, response := hv.response, due := conclude_completed hr outcome }
  | disposing outcome =>
    rw [hstage] at hs hdue
    cases hs
    have hd := Session.discard_read (serving_self h.toServing)
    rw [← Outcome.mapError_snd StreamError.toEngine x.2.discard] at hd
    have hv := serving_read h.toServing hd
    exact { fed := hv.fed, response := hv.response, due := ⟨hdue, hd.discarding rfl⟩ }
  | finished outcome =>
    rw [hstage] at hs
    cases hs
  | crashed =>
    rw [hstage] at hs
    cases hs

/-- A worker on duty that cannot make a step has finished. -/
theorem step_none (h : OnDuty x) (hs : step x = none) : ∃ outcome, x.1.stage = .finished outcome := by
  have hdue := h.due
  unfold step at hs
  cases hstage : x.1.stage with
  | handling todo =>
    rw [hstage] at hs
    cases todo <;> cases hs
  | reading r purpose catches todo =>
    rw [hstage] at hs hdue
    rcases hp : r.step x.2 with ⟨p, t⟩
    cases p <;> simp [hp, hdue.1] at hs
  | responding outcome =>
    rw [hstage] at hs
    cases hs
  | disposing outcome =>
    rw [hstage] at hs
    cases hs
  | finished outcome => exact ⟨outcome, rfl⟩
  | crashed =>
    rw [hstage] at hdue
    exact hdue.elim

theorem onDuty_not_waiting (h : OnDuty x) : x.1.isWaiting = false := by
  have hdue := h.due
  unfold isWaiting
  split
  · next hstage =>
    rw [hstage] at hdue
    exact hdue.1
  · rfl

end Worker

end FramedHttp
