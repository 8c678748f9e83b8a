import FramedHttp.Exchange.Direct
import FramedHttp.Proofs.Content.Following
import FramedHttp.Proofs.Response.Following

/-!
# Workers under watch

A worker hands emissions to its sink and gives the body up at its bench. A watched bench keeps a log of both,
with the answers. Watching changes nothing: a worker goes the same way at the bench alone.
-/

set_option autoImplicit false

namespace FramedHttp

open Content Generator

/-- What a worker has done at its bench, and what it was answered. -/
inductive Deed where
  | emit (e : Emission) (answer : Except EngineError Unit)
  | discard (answer : Except EngineError Unit)

/-- A bench, with the deeds since it was watched. -/
structure Watched (ω : Type) where
  bench : ω
  log : List Deed := []

namespace Watched

variable {σ ω ο : Type}

def withBench (s : Watched ω) (b : ω) : Watched ω :=
  { s with bench := b }

instance [Source ω] : Source (Watched ω) where
  available s := Source.available s.bench
  await waits s := (Source.await waits s.bench).map id s.withBench
  expire maxIdle s := (Source.expire maxIdle s.bench).map id s.withBench
  consume n s := (Source.consume n s.bench).mapState s.withBench
  discard s :=
    let r := Source.discard s.bench
    (r.1, { bench := r.2, log := s.log ++ [.discard r.1] })
  reads s := Source.reads s.bench

instance [Bench ω ο] : Bench (Watched ω) (ο × List Deed) where
  outlet s := (Bench.outlet s.bench, s.log)
  withOutlet o s := { bench := Bench.withOutlet o.1 s.bench, log := o.2 }

instance [Sink (σ × ο)] : Sink (σ × (ο × List Deed)) where
  emit e s :=
    let r := Sink.emit e (s.1, s.2.1)
    (r.1, r.2.1, r.2.2, s.2.2 ++ [.emit e r.1])
  interruptions s := Sink.interruptions (s.1, s.2.1)

theorem bench_follows [Source ω] : Follows (bench (ω := ω)) where
  available _ := rfl
  await _ _ := rfl
  expire _ _ := rfl
  consume _ _ := rfl
  discard _ := rfl
  reads _ := rfl

/-- The sink without the log. -/
def alone (s : σ × (ο × List Deed)) : σ × ο := (s.1, s.2.1)

theorem alone_follows [Sink (σ × ο)] : FollowsAlways (alone (σ := σ) (ο := ο)) where
  stays h _ := h
  emit _ := rfl
  interruptions _ := rfl

end Watched

open Watched

/-- What can happen while a worker works: it takes a step, its wait expires, or its bench changes. -/
inductive WorkerTurn (ω : Type) where
  | step
  | expire
  | meanwhile (change : ω → ω)

/-- The same at a watched bench, of which only the bench changes. -/
def WorkerTurn.watched {ω : Type} : WorkerTurn ω → WorkerTurn (Watched ω)
  | .step => .step
  | .expire => .expire
  | .meanwhile change => .meanwhile fun s => s.withBench (change s.bench)

namespace Worker

variable {σ ω ο : Type} [Sink (σ × ο)] [Bench ω ο]

def turn (t : WorkerTurn ω) (x : Worker σ × ω) : Worker σ × ω :=
  match t with
  | .step => (step x).getD x
  | .expire => expire x
  | .meanwhile change => (x.1, change x.2)

def course : List (WorkerTurn ω) → Worker σ × ω → Worker σ × ω
  | [], x => x
  | t :: turns, x => course turns (turn t x)

theorem course_append (turns rest : List (WorkerTurn ω)) (x : Worker σ × ω) :
    course (turns ++ rest) x = course rest (course turns x) := by
  induction turns generalizing x with
  | nil => rfl
  | cons t turns ih => exact ih _

/-- A worker that is run up to a bound takes such a course, and nothing else happens to its bench. -/
theorem runUpTo_course (n : Nat) (x : Worker σ × ω) :
    ∃ turns, (∀ t ∈ turns, t = .step ∨ t = .expire) ∧ runUpTo n x = course turns x := by
  induction n generalizing x with
  | zero => exact ⟨[], nofun, rfl⟩
  | succ n ih =>
    unfold runUpTo
    cases hs : step x with
    | some y =>
      obtain ⟨turns, hown, hr⟩ := ih y
      have ht : turn .step x = y := by simp [turn, hs]
      exact ⟨.step :: turns, List.forall_mem_cons.mpr ⟨.inl rfl, hown⟩, by rw [course, ht]; exact hr⟩
    | none =>
      dsimp only
      split
      · obtain ⟨turns, hown, hr⟩ := ih (expire x)
        exact ⟨.expire :: turns, List.forall_mem_cons.mpr ⟨.inr rfl, hown⟩, hr⟩
      · exact ⟨[], nofun, rfl⟩

/-- The worker at the bench alone. -/
def unwatched (x : Worker σ × Watched ω) : Worker σ × ω := (x.1, x.2.bench)

omit [Bench ω ο] in
/-- A handler that fails after the commit leaves it at what was committed. -/
theorem conclude_committed {g : Generator (σ × ο)} (h : g.phase ≠ .opened) (e : EngineError) :
    conclude (.error e) g = (.error e, g.complete.2) := by
  have hc : g.isCommitted = true := by simp [isCommitted, h]
  simp [conclude, hc]

/-- One that fails before it is answered for. -/
theorem conclude_opened {g : Generator (σ × ο)} (h : g.phase = .opened) (e : EngineError) :
    conclude (.error e) g =
      (.error e, { g with buffer := [], head := { status := .internalServerError } }.complete.2) := by
  have hc : g.isCommitted = false := by simp [isCommitted, h]
  have hr : g.reset.2.setStatus .internalServerError =
      { g with buffer := [], head := { status := .internalServerError } } := by
    rw [reset_opened h, setStatus, changeHead_opened (by exact h)]
  simp [conclude, hc, hr]

theorem conclude_follows (outcome : Except EngineError Unit) (g : Generator (σ × (ο × List Deed))) :
    (conclude outcome g).mapState (mapSink alone) = conclude outcome (g.mapSink alone) := by
  have hc : ∀ k : Generator (σ × (ο × List Deed)),
      k.complete.mapState (mapSink alone) = (k.mapSink alone).complete :=
    fun k => complete_follows alone_follows.toFollowsUntil id
  cases outcome with
  | ok => exact hc g
  | error e =>
    by_cases hp : g.phase = .opened
    · rw [conclude_opened hp, conclude_opened (g := g.mapSink alone) hp]
      exact congrArg (Prod.mk _) (congrArg Prod.snd (hc _))
    · rw [conclude_committed hp, conclude_committed (g := g.mapSink alone) hp]
      exact congrArg (Prod.mk _) (congrArg Prod.snd (hc g))

section Plain

variable {f : Generator (σ × (ο × List Deed)) → Outcome EngineError (Generator (σ × (ο × List Deed)))}
  {f' : Generator (σ × ο) → Outcome EngineError (Generator (σ × ο))}
  (hf : ∀ g, (f g).mapState (mapSink alone) = f' (g.mapSink alone))
include hf

omit [Sink (σ × ο)] in
theorem onResponse_unwatched (x : Worker σ × Watched ω) :
    (onResponse f x).mapState unwatched = onResponse f' (unwatched x) := by
  have hg := hf (x.1.response.mapSink fun sink => (sink, Bench.outlet x.2))
  have hx : (x.1.response.mapSink fun sink => (sink, Bench.outlet x.2)).mapSink alone =
      (unwatched x).1.response.mapSink fun sink => (sink, Bench.outlet (unwatched x).2) := rfl
  rw [hx] at hg
  unfold onResponse
  rw [← hg]
  rfl

omit [Sink (σ × ο)] in
theorem respond_unwatched (catches : Bool) (todo : Handler) (x : Worker σ × Watched ω) :
    unwatched (respond f catches todo x) = respond f' catches todo (unwatched x) := by
  unfold respond
  rw [← onResponse_unwatched hf x]
  rfl

end Plain

theorem perform_alone (op : ResponseOp) (g : Generator (σ × (ο × List Deed))) :
    (Generator.perform op g).mapState (mapSink alone) = Generator.perform op (g.mapSink alone) :=
  perform_follows_always alone_follows op g

theorem deliver_unwatched (purpose : Purpose) (catches : Bool) (todo : Handler)
    (result : Except EngineError Octets) (x : Worker σ × Watched ω) :
    unwatched (deliver purpose catches todo result x) = deliver purpose catches todo result (unwatched x) := by
  unfold deliver
  split
  · next octets => exact respond_unwatched (perform_alone (.write octets)) catches todo x
  · rfl
  · rfl

theorem proceed_unwatched (purpose : Purpose) (catches : Bool) (todo : Handler) (p : Progress)
    (x : Worker σ × Watched ω) :
    unwatched (proceed purpose catches todo p x) = proceed purpose catches todo p (unwatched x) := by
  cases p with
  | done result => exact deliver_unwatched purpose catches todo result x
  | more r => rfl
  | waiting r => rfl

theorem perform_unwatched (line : HandlerLine) (todo : Handler) (x : Worker σ × Watched ω) :
    unwatched (perform line todo x) = perform line todo (unwatched x) := by
  unfold perform
  split
  · next op _ => exact respond_unwatched (perform_alone op) line.catches todo x
  · rfl
  · rfl
  · rfl
  · rfl
  · rfl
  · exact proceed_unwatched _ _ _ _ x
  · next op _ =>
    split
    · exact proceed_unwatched _ _ _ _ x
    · cases op <;> rfl

/-- A step. -/
theorem step_unwatched (x : Worker σ × Watched ω) : (step x).map unwatched = step (unwatched x) := by
  have hs : (unwatched x).1 = x.1 := rfl
  unfold step
  rw [hs]
  cases x.1.stage with
  | handling todo =>
    cases todo with
    | nil => rfl
    | cons line todo => exact congrArg some (perform_unwatched line todo x)
  | reading r purpose catches todo =>
    have hr := Content.step_follows bench_follows r x.2
    have hx : (unwatched x).2 = x.2.bench := rfl
    dsimp only
    rw [hx, ← hr]
    rcases r.step x.2 with ⟨p, t⟩
    dsimp only [Prod.map, id]
    split
    · rfl
    · exact congrArg some (proceed_unwatched purpose catches todo _ (x.1, t))
  | responding outcome =>
    dsimp only
    rw [← onResponse_unwatched (conclude_follows outcome) x]
    rfl
  | disposing outcome => rfl
  | finished outcome => rfl
  | crashed => rfl

/-- A wait that expires. -/
theorem expire_unwatched (x : Worker σ × Watched ω) : unwatched (expire x) = expire (unwatched x) := by
  have hs : (unwatched x).1 = x.1 := rfl
  unfold expire
  rw [hs]
  cases x.1.stage with
  | reading r purpose catches todo =>
    dsimp only
    split
    · exact proceed_unwatched _ _ _ _ _
    · rfl
  | _ => rfl

theorem turn_unwatched (t : WorkerTurn ω) (x : Worker σ × Watched ω) :
    unwatched (turn t.watched x) = turn t (unwatched x) := by
  cases t with
  | step =>
    change unwatched ((step x).getD x) = (step (unwatched x)).getD (unwatched x)
    rw [← step_unwatched]
    cases step x <;> rfl
  | expire => exact expire_unwatched x
  | meanwhile change => rfl

/-- Watching changes nothing. -/
theorem course_unwatched (turns : List (WorkerTurn ω)) (x : Worker σ × Watched ω) :
    unwatched (course (turns.map WorkerTurn.watched) x) = course turns (unwatched x) := by
  induction turns generalizing x with
  | nil => rfl
  | cons t turns ih => rw [List.map_cons, course, course, ih, turn_unwatched]

end Worker

end FramedHttp
