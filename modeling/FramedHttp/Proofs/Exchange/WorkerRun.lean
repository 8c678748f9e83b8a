import FramedHttp.Exchange.Worker
import FramedHttp.Proofs.Content.Reading

/-!
# What every step of a worker keeps

A worker touches the world in two ways: it reads at its bench, and it performs operations on its response,
which reach the outlet of the bench. What both of these keep, every step keeps, and so does a wait that
expires.
-/

set_option autoImplicit false

namespace FramedHttp

open Content Generator

namespace Worker

variable {σ ω ο : Type} [Sink (σ × ο)] [Bench ω ο]

/-- The response with its sink at the outlet of the bench. -/
def atBench (g : Generator σ) (s : ω) : Generator (σ × ο) :=
  g.mapSink fun sink => (sink, Bench.outlet s)

/-- Kept between a response and the bench it is written at. -/
structure Kept (J : Generator σ → ω → Prop) : Prop where
  bench : ∀ g, Keeps (J g)
  respond : ∀ {g : Generator σ} {s : ω}, J g s → ∀ ops : List ResponseOp,
    J ((run ops (atBench g s)).mapSink Prod.fst) (Bench.withOutlet (run ops (atBench g s)).sink.2 s)

/-- What is done to the response in the end are operations on it. -/
theorem conclude_run (outcome : Except EngineError Unit) (g : Generator (σ × ο)) :
    ∃ ops, (conclude outcome g).2 = run ops g := by
  cases outcome with
  | ok => exact ⟨[.complete], rfl⟩
  | error e =>
    by_cases hc : g.isCommitted = true
    · have hr : (conclude (.error e) g).2 = run [.complete] g := by
        simp only [conclude, if_pos hc]
        rfl
      exact ⟨_, hr⟩
    · have hr : (conclude (.error e) g).2 = run [.reset, .status 500, .complete] g := by
        simp only [conclude, if_neg hc]
        rfl
      exact ⟨_, hr⟩

variable {J : Generator σ → ω → Prop} (hJ : Kept J) {x y : Worker σ × ω} {catches : Bool} {todo : Handler}
  {purpose : Purpose}
include hJ

theorem onResponse_keeps (h : J x.1.response x.2)
    {f : Generator (σ × ο) → Outcome EngineError (Generator (σ × ο))} {ops : List ResponseOp}
    (hf : (f (atBench x.1.response x.2)).2 = run ops (atBench x.1.response x.2)) :
    J (onResponse f x).2.1.response (onResponse f x).2.2 := by
  have hr := hJ.respond h ops
  rwa [← hf] at hr

theorem respond_keeps (h : J x.1.response x.2) (op : ResponseOp) :
    J (respond (Generator.perform op) catches todo x).1.response
      (respond (Generator.perform op) catches todo x).2 :=
  onResponse_keeps hJ h (show _ = run [op] _ from rfl)

theorem deliver_keeps (h : J x.1.response x.2) (result : Except EngineError Octets) :
    J (deliver purpose catches todo result x).1.response (deliver purpose catches todo result x).2 := by
  unfold deliver
  split
  · next octets => exact respond_keeps hJ h (.write octets)
  · exact h
  · exact h

theorem proceed_keeps (h : J x.1.response x.2) (p : Progress) :
    J (proceed purpose catches todo p x).1.response (proceed purpose catches todo p x).2 := by
  cases p with
  | done result => exact deliver_keeps hJ h result
  | more r => exact h
  | waiting r => exact h

theorem perform_keeps (h : J x.1.response x.2) (line : HandlerLine) :
    J (perform line todo x).1.response (perform line todo x).2 := by
  unfold perform
  split
  · next op _ => exact respond_keeps hJ h op
  · exact h
  · exact h
  · exact h
  · exact h
  · exact h
  · exact proceed_keeps hJ h _
  · next op _ =>
    split
    · exact proceed_keeps hJ h _
    · exact immediate_keeps (hJ.bench x.1.response).toServes h op

/-- A step. -/
theorem kept_step (h : J x.1.response x.2) (hs : step x = some y) : J y.1.response y.2 := by
  have hb := hJ.bench x.1.response
  unfold step at hs
  cases hstage : x.1.stage with
  | handling todo =>
    rw [hstage] at hs
    cases todo with
    | nil =>
      cases hs
      exact h
    | cons line todo =>
      cases hs
      exact perform_keeps hJ h line
  | reading r purpose catches todo =>
    rw [hstage] at hs
    have hr := Content.step_keeps hb.toReads h r
    have hp : ∀ p, J (proceed purpose catches todo p (x.1, (r.step x.2).2)).1.response
        (proceed purpose catches todo p (x.1, (r.step x.2).2)).2 := proceed_keeps hJ hr
    dsimp only at hs
    split at hs
    · cases hs
    · cases hs
      exact hp _
  | responding outcome =>
    rw [hstage] at hs
    cases hs
    obtain ⟨ops, ho⟩ := conclude_run outcome (atBench x.1.response x.2)
    exact onResponse_keeps hJ h ho
  | disposing outcome =>
    rw [hstage] at hs
    cases hs
    exact hb.discard h
  | finished outcome =>
    rw [hstage] at hs
    cases hs
  | crashed =>
    rw [hstage] at hs
    cases hs

/-- A wait that expires. -/
theorem kept_expire (h : J x.1.response x.2) : J (expire x).1.response (expire x).2 := by
  unfold expire
  split
  · split
    · exact proceed_keeps hJ ((hJ.bench x.1.response).expire h _) _
    · exact h
  · exact h

end Worker

end FramedHttp
