import FramedHttp.Proofs.Exchange.Watched
import FramedHttp.Proofs.Exchange.WorkerRun

/-!
# How a request is concluded

When the handler is through, its response is completed, and then the body is given up. A handler that failed
before the commit is answered for, and nothing of what it prepared is handed over; one that failed after it
leaves its response as far as it got, with the octets that are left and the end.
-/

set_option autoImplicit false

namespace FramedHttp

open Content Generator Watched

namespace Deed

/-- The kind of a deed that belongs to the response proper. -/
def kind? : Deed → Option EmissionKind
  | .emit e _ => e.kind?
  | .discard _ => none

def head? : Deed → Option ResponseHead
  | .emit (.headers head _ _) _ => some head
  | _ => none

theorem head?_eq_none {d : Deed} (h : d.kind? = none) : d.head? = none := by
  cases d with
  | emit e answer => cases e <;> first | rfl | cases h
  | discard answer => rfl

end Deed

/-- Where no deed belongs to the response proper, the log has nothing of it. -/
theorem proper_silent {log : List Deed} (h : ∀ d ∈ log, d.kind? = none) :
    log.filter (fun d => d.kind?.isSome) = [] := by
  apply List.filter_eq_nil_iff.mpr
  intro d hd
  simp [h d hd]

/-- Before the commit the log has nothing of the response proper, and after it one head, which stays. -/
structure Logged (phase : Phase) (head : ResponseHead) (log : List Deed) : Prop where
  silent : phase = .opened → ∀ d ∈ log, d.kind? = none
  head : phase ≠ .opened → log.filterMap Deed.head? = [head]

/-- A last piece, and the end of the response if the sink takes that piece. -/
inductive Ending (e : Emission) : List Deed → Prop
  | lost (err : EngineError) : Ending e [.emit e (.error err)]
  | ended (answer : Except EngineError Unit) : Ending e [.emit e (.ok ()), .emit .finish answer]

/-- What is handed over at the completion of a response with this head and these octets left. -/
inductive Closing (head : ResponseHead) (octets : Octets) : Phase → List Deed → Prop
  | opened {emitted : List Deed} (h : Ending (.headers head octets true) emitted) : Closing head octets .opened emitted
  | left {emitted : List Deed} (hb : octets ≠ []) (h : Ending (.body octets true) emitted) :
      Closing head octets .committed emitted
  | drained (hb : octets = []) (answer : Except EngineError Unit) :
      Closing head octets .committed [.emit .finish answer]
  | completed : Closing head octets .completed []

theorem ending_proper {e : Emission} (he : e.kind?.isSome = true) {emitted : List Deed} (h : Ending e emitted) :
    ∀ d ∈ emitted, d.kind?.isSome = true := by
  have hd : ∀ answer, (Deed.emit e answer).kind?.isSome = true := fun _ => he
  have hf : ∀ answer, (Deed.emit .finish answer).kind?.isSome = true := fun _ => rfl
  cases h <;> simp [hd, hf]

theorem closing_proper {head : ResponseHead} {octets : Octets} {phase : Phase} {emitted : List Deed}
    (h : Closing head octets phase emitted) : ∀ d ∈ emitted, d.kind?.isSome = true := by
  cases h with
  | opened h => exact ending_proper rfl h
  | left _ h => exact ending_proper rfl h
  | drained => simp [Deed.kind?, Emission.kind?]
  | completed => exact fun _ hd => absurd hd List.not_mem_nil

/-- Once there is a head, none is handed over any more. -/
theorem closing_headless {head : ResponseHead} {octets : Octets} {phase : Phase} {emitted : List Deed}
    (h : Closing head octets phase emitted) (hp : phase ≠ .opened) : emitted.filterMap Deed.head? = [] := by
  cases h with
  | opened => exact absurd rfl hp
  | left _ h => cases h <;> rfl
  | drained => rfl
  | completed => rfl

theorem logged_nil (head : ResponseHead) : Logged .opened head [] where
  silent _ _ hd := absurd hd List.not_mem_nil
  head hp := absurd rfl hp

theorem logged_append {phase : Phase} {head : ResponseHead} {log : List Deed} (h : Logged phase head log)
    {d : Deed} (hd : d.head? = none) (hk : phase = .opened → d.kind? = none) : Logged phase head (log ++ [d]) where
  silent hp := by
    intro c hc
    rcases List.mem_append.mp hc with hc | hc
    · exact h.silent hp c hc
    · rw [List.mem_singleton.mp hc]
      exact hk hp
  head hp := by simp [List.filterMap_append, h.head hp, hd]

namespace Generator

variable {σ ο : Type} [Sink (σ × ο)] {g : Generator (σ × (ο × List Deed))}

theorem emit_log (e : Emission) (g : Generator (σ × (ο × List Deed))) :
    (g.emit e).2.sink.2.2 = g.sink.2.2 ++ [.emit e (g.emit e).1] := rfl

theorem logged_persists :
    Persists fun g : Generator (σ × (ο × List Deed)) => Logged g.phase g.head g.sink.2.2 where
  change h hp _ := ⟨h.silent, absurd hp⟩
  reset h hp := ⟨h.silent, absurd hp⟩
  gather h _ _ := h
  commit {g} h hp last := by
    have hnone : g.sink.2.2.filterMap Deed.head? = [] := by
      apply List.filterMap_eq_nil_iff.mpr
      intro d hd
      exact Deed.head?_eq_none (h.silent hp d hd)
    constructor
    · intro hc
      cases hc
    · intro _
      change (g.sink.2.2 ++ [_]).filterMap Deed.head? = [g.head]
      rw [List.filterMap_append, hnone]
      rfl
  emitBuffer h hp _ := logged_append h rfl fun ho => absurd (hp.symm.trans ho) (by decide)
  close {g} h hp := by
    have hc : Logged .completed g.head g.sink.2.2 := ⟨nofun, fun _ => h.head (by simp [hp])⟩
    exact logged_append hc rfl nofun
  aside h e he := logged_append h (Deed.head?_eq_none he) fun _ => he

/-- An emission with the end of the response after it. -/
theorem emit_close_log (e : Emission) (g : Generator (σ × (ο × List Deed))) :
    ∃ emitted, Ending e emitted ∧ ((g.emit e).andThen close).2.sink.2.2 = g.sink.2.2 ++ emitted := by
  have hl := emit_log e g
  cases hr : (g.emit e).1 with
  | error err =>
    have hg : g.emit e = (.error err, (g.emit e).2) := Prod.ext hr rfl
    rw [hr] at hl
    rw [hg, Outcome.andThen_error]
    exact ⟨_, .lost err, hl⟩
  | ok =>
    have hg : g.emit e = (.ok (), (g.emit e).2) := Prod.ext hr rfl
    rw [hr] at hl
    rw [hg, Outcome.andThen_ok, close, emit_log, hl, List.append_assoc]
    exact ⟨_, .ended _, rfl⟩

/-- What is left and the end, whatever the sink says. -/
theorem complete_log (g : Generator (σ × (ο × List Deed))) :
    ∃ emitted, Closing g.head g.buffer g.phase emitted ∧ g.complete.2.sink.2.2 = g.sink.2.2 ++ emitted := by
  rcases complete_cases g with hp | hp | ⟨hp, hb⟩ | ⟨hp, hb⟩
  · rw [complete_idle hp, hp]
    exact ⟨[], .completed, (List.append_nil _).symm⟩
  · obtain ⟨emitted, he, hl⟩ :=
      emit_close_log (.headers g.head g.buffer true) { g with buffer := [], phase := .committed }
    rw [complete_opened hp, hp]
    exact ⟨emitted, .opened he, hl⟩
  · rw [complete_drained hp hb, hp]
    exact ⟨_, .drained hb _, emit_log _ { g with phase := .completed }⟩
  · obtain ⟨emitted, he, hl⟩ := emit_close_log (.body g.buffer true) { g with buffer := [] }
    rw [complete_left hp hb, hp]
    exact ⟨emitted, .left hb he, hl⟩

end Generator

namespace Worker

variable {σ ω ο : Type} [Sink (σ × ο)] [Bench ω ο]

/-- What the log of a bench tells of a response, every step keeps. -/
theorem logged_kept : Kept fun (g : Generator σ) (s : Watched ω) => Logged g.phase g.head s.log where
  bench _ :=
    { await := fun h _ => h
      consume := fun h _ => h
      discard := fun h => logged_append h rfl fun _ => rfl
      expire := fun h _ => h }
  respond {g s} h ops := logged_persists.run (g := atBench g s) h ops

theorem logged_turn {x : Worker σ × Watched ω} (h : Logged x.1.response.phase x.1.response.head x.2.log)
    (t : WorkerTurn ω) :
    Logged (turn t.watched x).1.response.phase (turn t.watched x).1.response.head (turn t.watched x).2.log := by
  cases t with
  | step =>
    change Logged ((step x).getD x).1.response.phase ((step x).getD x).1.response.head ((step x).getD x).2.log
    cases hs : step x with
    | none => exact h
    | some y => exact kept_step logged_kept h hs
  | expire => exact kept_expire logged_kept h
  | meanwhile change => exact h

theorem logged_course {x : Worker σ × Watched ω} (h : Logged x.1.response.phase x.1.response.head x.2.log)
    (turns : List (WorkerTurn ω)) :
    let y := course (turns.map WorkerTurn.watched) x
    Logged y.1.response.phase y.1.response.head y.2.log := by
  induction turns generalizing x with
  | nil => exact h
  | cons t turns ih => exact ih (logged_turn h t)

/-- The worker has not yet concluded its response. A handler that failed has left its error in the log of answers. -/
def Unconcluded (w : Worker σ) : Prop :=
  match w.stage with
  | .disposing _ | .finished _ => False
  | .responding (.error e) => w.log.getLast? = some (.error e)
  | _ => True

section Unconcluded

omit [Sink (σ × ο)] [Bench ω ο] in
theorem record_unconcluded (result : Except EngineError Answer) (catches : Bool) (todo : Handler) (w : Worker σ) :
    Unconcluded (w.record result catches todo) := by
  cases result with
  | ok answer => trivial
  | error e =>
    cases catches with
    | true => trivial
    | false => exact List.getLast?_concat

theorem deliver_unconcluded (purpose : Purpose) (catches : Bool) (todo : Handler)
    (result : Except EngineError Octets) (x : Worker σ × ω) :
    Unconcluded (deliver purpose catches todo result x).1 := by
  unfold deliver
  split <;> exact record_unconcluded _ _ _ _

theorem proceed_unconcluded (purpose : Purpose) (catches : Bool) (todo : Handler) (p : Progress)
    (x : Worker σ × ω) : Unconcluded (proceed purpose catches todo p x).1 := by
  cases p with
  | done result => exact deliver_unconcluded purpose catches todo result x
  | more r => trivial
  | waiting r => trivial

theorem perform_unconcluded (line : HandlerLine) (todo : Handler) (x : Worker σ × ω) :
    Unconcluded (perform line todo x).1 := by
  unfold perform
  split
  · exact record_unconcluded _ line.catches todo _
  · trivial
  · trivial
  · trivial
  · exact record_unconcluded _ line.catches todo _
  · trivial
  · exact proceed_unconcluded _ _ _ _ x
  · split
    · exact proceed_unconcluded _ _ _ _ x
    · exact record_unconcluded _ line.catches todo _

/-- Only the step after the handler completes the response. -/
theorem turn_unconcluded {x : Worker σ × ω} (h : Unconcluded x.1) (t : WorkerTurn ω)
    (ht : ∀ outcome, x.1.stage = .responding outcome → t ≠ .step) : Unconcluded (turn t x).1 := by
  cases t with
  | step =>
    change Unconcluded ((step x).getD x).1
    unfold step
    cases hs : x.1.stage with
    | handling todo =>
      cases todo with
      | nil => trivial
      | cons line todo => exact perform_unconcluded line todo x
    | reading r purpose catches todo =>
      dsimp only
      split
      · exact h
      · exact proceed_unconcluded _ _ _ _ _
    | responding outcome => exact absurd rfl (ht outcome hs)
    | disposing | finished =>
      rw [Unconcluded, hs] at h
      exact h.elim
    | crashed => exact h
  | expire =>
    change Unconcluded (expire x).1
    unfold expire
    split
    · split
      · exact proceed_unconcluded _ _ _ _ _
      · exact h
    · exact h
  | meanwhile change => exact h

end Unconcluded

/-- A worker that has finished has concluded its response in one step. -/
theorem finished_concluded {x : Worker σ × Watched ω} (h : Unconcluded x.1) {turns : List (WorkerTurn ω)}
    {result : Except EngineError Unit} (hf : (course (turns.map WorkerTurn.watched) x).1.stage = .finished result) :
    ∃ earlier rest outcome, turns = earlier ++ .step :: rest ∧
      (course (earlier.map WorkerTurn.watched) x).1.stage = .responding outcome ∧
      Unconcluded (course (earlier.map WorkerTurn.watched) x).1 := by
  induction turns generalizing x with
  | nil =>
    have hs : x.1.stage = .finished result := hf
    rw [Unconcluded, hs] at h
    exact h.elim
  | cons t turns ih =>
    by_cases hc : ∃ outcome, x.1.stage = .responding outcome ∧ t = .step
    · obtain ⟨outcome, hs, rfl⟩ := hc
      exact ⟨[], turns, outcome, rfl, hs, h⟩
    · have ht : Unconcluded (turn t.watched x).1 := by
        apply turn_unconcluded h
        intro outcome hs hstep
        apply hc
        cases t with
        | step => exact ⟨outcome, hs, rfl⟩
        | expire => cases hstep
        | meanwhile => cases hstep
      obtain ⟨earlier, rest, outcome, rfl, hs⟩ := ih ht hf
      exact ⟨t :: earlier, rest, outcome, rfl, hs⟩

/-- After its end nothing is done by the worker. -/
theorem course_finished {x : Worker σ × Watched ω} {result : Except EngineError Unit}
    (h : x.1.stage = .finished result) (turns : List (WorkerTurn ω)) :
    let y := course (turns.map WorkerTurn.watched) x
    y.1 = x.1 ∧ y.2.log = x.2.log := by
  induction turns generalizing x with
  | nil => exact ⟨rfl, rfl⟩
  | cons t turns ih =>
    have ht : (turn t.watched x).1 = x.1 ∧ (turn t.watched x).2.log = x.2.log := by
      cases t with
      | step => simp [WorkerTurn.watched, turn, step, h]
      | expire => simp [WorkerTurn.watched, turn, expire, h]
      | meanwhile change => exact ⟨rfl, rfl⟩
    have hy := ih ((congrArg Worker.stage ht.1).trans h)
    exact ⟨hy.1.trans ht.1, hy.2.trans ht.2⟩

/-- The step that concludes a response. -/
theorem turn_responding {x : Worker σ × Watched ω} {outcome : Except EngineError Unit}
    (h : x.1.stage = .responding outcome) :
    let r := conclude outcome (atBench x.1.response x.2)
    let y := turn (WorkerTurn.watched .step) x
    y.1.stage = .disposing r.1 ∧ y.2.log = r.2.sink.2.2 := by
  simp only [WorkerTurn.watched, turn, step, h, Option.getD_some]
  exact ⟨rfl, rfl⟩

/-- The step that gives the body up. -/
theorem turn_disposing {x : Worker σ × Watched ω} {outcome : Except EngineError Unit}
    (h : x.1.stage = .disposing outcome) :
    let y := turn (WorkerTurn.watched .step) x
    y.1.stage = .finished outcome ∧ y.2.log = x.2.log ++ [.discard (Source.discard x.2.bench).1] := by
  simp only [WorkerTurn.watched, turn, step, h, Option.getD_some]
  exact ⟨trivial, rfl⟩

/-- A worker whose response is completed gives the body up, once, and ends as it was told. -/
theorem course_disposing {x : Worker σ × Watched ω} {outcome result : Except EngineError Unit}
    (h : x.1.stage = .disposing outcome) {turns : List (WorkerTurn ω)} :
    let y := course (turns.map WorkerTurn.watched) x
    y.1.stage = .finished result → result = outcome ∧ ∃ answer, y.2.log = x.2.log ++ [.discard answer] := by
  induction turns generalizing x with
  | nil =>
    intro y hf
    cases h.symm.trans hf
  | cons t turns ih =>
    intro y hf
    cases t with
    | step =>
      obtain ⟨hs, hd⟩ := turn_disposing h
      obtain ⟨hw, hl⟩ := course_finished hs turns
      cases hs.symm.trans ((congrArg Worker.stage hw).symm.trans hf)
      exact ⟨rfl, _, hl.trans hd⟩
    | expire =>
      have hs : turn (WorkerTurn.watched .expire) x = x := by simp [WorkerTurn.watched, turn, expire, h]
      have hy : y = course (turns.map WorkerTurn.watched) x := congrArg _ hs
      rw [hy] at hf ⊢
      exact ih h hf
    | meanwhile change => exact ih (x := (x.1, x.2.withBench (change x.2.bench))) h hf

/-- A worker that has finished came to the end of its handler, and its result and its log are those of the
conclusion, with the body given up after it. -/
theorem course_finished_from {x : Worker σ × Watched ω} (h : Unconcluded x.1) {turns : List (WorkerTurn ω)}
    {result : Except EngineError Unit} (hf : (course (turns.map WorkerTurn.watched) x).1.stage = .finished result) :
    ∃ earlier rest outcome answer, turns = earlier ++ .step :: rest ∧
      let y := course (earlier.map WorkerTurn.watched) x
      let r := conclude outcome (atBench y.1.response y.2)
      y.1.stage = .responding outcome ∧ Unconcluded y.1 ∧ result = r.1 ∧
        (course (turns.map WorkerTurn.watched) x).2.log = r.2.sink.2.2 ++ [.discard answer] := by
  obtain ⟨earlier, rest, outcome, rfl, hs, hu⟩ := finished_concluded h hf
  obtain ⟨hd, hl⟩ := turn_responding hs
  rw [List.map_append, course_append] at hf ⊢
  obtain ⟨hresult, answer, hlog⟩ := course_disposing hd hf
  exact ⟨earlier, rest, outcome, answer, rfl, hs, hu, hresult, hlog.trans (congrArg (· ++ _) hl)⟩

/-- The log and the head after the step that concludes a response. -/
theorem conclude_log (outcome : Except EngineError Unit) (g : Generator (σ × (ο × List Deed))) :
    ∃ emitted, (conclude outcome g).2.sink.2.2 = g.sink.2.2 ++ emitted ∧
      (∀ d ∈ emitted, d.kind?.isSome = true) ∧
      (outcome = .ok () → (conclude outcome g).1 = g.complete.1 ∧ Closing g.head g.buffer g.phase emitted) ∧
      ∀ e, outcome = .error e → (conclude outcome g).1 = .error e ∧
        (g.phase = .opened → Ending (.headers { status := .internalServerError } [] true) emitted) ∧
        (g.phase ≠ .opened → Closing g.head g.buffer g.phase emitted) := by
  cases outcome with
  | ok =>
    obtain ⟨emitted, hc, hl⟩ := complete_log g
    exact ⟨emitted, hl, closing_proper hc, fun _ => ⟨rfl, hc⟩, nofun⟩
  | error e =>
    by_cases hp : g.phase = .opened
    · obtain ⟨emitted, hc, hl⟩ :=
        complete_log { g with buffer := [], head := { status := .internalServerError } }
      have he : Ending (.headers { status := .internalServerError } [] true) emitted := by
        rw [hp] at hc
        cases hc with
        | opened he => exact he
      rw [conclude_opened hp]
      refine ⟨emitted, hl, closing_proper hc, nofun, ?_⟩
      rintro _ ⟨⟩
      exact ⟨rfl, fun _ => he, absurd hp⟩
    · obtain ⟨emitted, hc, hl⟩ := complete_log g
      rw [conclude_committed hp]
      refine ⟨emitted, hl, closing_proper hc, nofun, ?_⟩
      rintro _ ⟨⟩
      exact ⟨rfl, fun ho => absurd ho hp, fun _ => hc⟩

/-- A handler that failed before the commit is answered for by a plain 500 response without a body, and nothing
else of the response proper is ever handed over. Where it failed after the commit, the committed head stays, and
what is still handed over is what the buffer had left and the end, unless that piece was lost; after the
completion it is nothing. A worker whose handler is through finishes, with the error of the handler if there
is one, and otherwise with the answer of the completion. Before that it gives the body up, once, whatever comes
of it. -/
theorem handler_concluded (request : RequestHead) (maxIdle : Duration) (bufferSize : Nat) (sink : σ)
    (handler : Handler) (bench : ω) (turns : List (WorkerTurn ω)) :
    let worker := Worker.new request maxIdle bufferSize sink handler
    let reach : List (WorkerTurn ω) → Worker σ × Watched ω :=
      fun turns => course (turns.map WorkerTurn.watched) (worker, { bench := bench })
    let x := reach turns
    unwatched x = course turns (worker, bench) ∧
    (∀ outcome, x.1.stage = .responding outcome →
      ∃ result, (reach (turns ++ [.step, .step])).1.stage = .finished result) ∧
    ∀ result, x.1.stage = .finished result →
      ∃ earlier rest outcome emitted answer, turns = earlier ++ .step :: rest ∧
        let y := reach earlier
        let g := y.1.response
        y.1.stage = .responding outcome ∧
        x.2.log = y.2.log ++ emitted ++ [.discard answer] ∧ (∀ d ∈ emitted, d.kind?.isSome = true) ∧
        (outcome = .ok () →
          result = (atBench g y.2).complete.1 ∧ Closing g.head g.buffer g.phase emitted) ∧
        ∀ e, outcome = .error e → y.1.log.getLast? = some (.error e) ∧ result = .error e ∧
          (g.phase = .opened → Ending (.headers { status := .internalServerError } [] true) emitted ∧
            x.2.log.filter (fun d => d.kind?.isSome) = emitted) ∧
          (g.phase ≠ .opened → Closing g.head g.buffer g.phase emitted ∧
            x.2.log.filterMap Deed.head? = [g.head]) := by
  intro worker reach x
  have hw : Logged worker.response.phase worker.response.head [] := logged_nil worker.response.head
  constructor
  · exact course_unwatched turns (worker, { bench := bench })
  constructor
  · intro outcome hs
    have hr : reach (turns ++ [.step, .step]) =
        turn (WorkerTurn.watched .step) (turn (WorkerTurn.watched .step) x) := by
      simp only [reach, List.map_append, course_append]
      rfl
    rw [hr]
    exact ⟨_, (turn_disposing (turn_responding hs).1).1⟩
  · intro result hf
    obtain ⟨earlier, rest, outcome, answer, hturns, hs, hu, hresult, hlog⟩ :=
      course_finished_from (x := (worker, { bench := bench })) trivial hf
    obtain ⟨emitted, hemitted, hproper, hok, herr⟩ :=
      conclude_log outcome (atBench (reach earlier).1.response (reach earlier).2)
    have hy := logged_course (x := (worker, { bench := bench })) hw earlier
    have hx : x.2.log = (reach earlier).2.log ++ emitted ++ [.discard answer] :=
      hlog.trans (congrArg (· ++ _) hemitted)
    refine ⟨earlier, rest, outcome, emitted, answer, hturns, hs, hx, hproper, ?_, ?_⟩
    · intro ho
      obtain ⟨hr, hc⟩ := hok ho
      exact ⟨hresult.trans hr, hc⟩
    · intro e he
      obtain ⟨hr, hopened, hpast⟩ := herr e he
      have hlast : (reach earlier).1.log.getLast? = some (.error e) := by
        rw [Unconcluded, hs, he] at hu
        exact hu
      refine ⟨hlast, hresult.trans hr, ?_, ?_⟩
      · intro hp
        rw [hx, List.filter_append, List.filter_append, proper_silent (hy.silent hp), List.filter_eq_self.mpr hproper]
        exact ⟨hopened hp, by simp [Deed.kind?]⟩
      · intro hp
        rw [hx, List.filterMap_append, List.filterMap_append, hy.head hp, closing_headless (hpast hp) hp]
        exact ⟨hpast hp, rfl⟩

/-- A worker that is run without a stream has finished after steps and expired waits alone: it came to the end of
its handler, and it has finished with the error of the handler or with the answer of the completion. -/
theorem runUpTo_concluded {x : Worker σ × ω} (h : Unconcluded x.1) {n : Nat} {result : Except EngineError Unit}
    (hf : (runUpTo n x).1.stage = .finished result) :
    ∃ (earlier : List (WorkerTurn ω)) (outcome : Except EngineError Unit),
      (∀ t ∈ earlier, t = .step ∨ t = .expire) ∧
      let y := course earlier x
      y.1.stage = .responding outcome ∧
      (outcome = .ok () → result = (atBench y.1.response y.2).complete.1) ∧
      ∀ e, outcome = .error e → y.1.log.getLast? = some (.error e) ∧ result = .error e := by
  obtain ⟨turns, hown, hturns⟩ := runUpTo_course n x
  have hplain : ∀ turns, unwatched (course (turns.map WorkerTurn.watched) (x.1, { bench := x.2 })) = course turns x :=
    fun turns => course_unwatched turns (x.1, { bench := x.2 })
  rw [hturns, ← hplain] at hf
  obtain ⟨earlier, rest, outcome, answer, rfl, hs, hu, hresult, -⟩ :=
    course_finished_from (x := (x.1, { bench := x.2 })) h hf
  refine ⟨earlier, outcome, fun t ht => hown t (List.mem_append_left _ ht), ?_⟩
  rw [← hplain earlier]
  generalize course (earlier.map WorkerTurn.watched) (x.1, { bench := x.2 }) = y at hs hu hresult ⊢
  refine ⟨hs, ?_, ?_⟩
  · rintro rfl
    exact hresult.trans (congrArg Prod.fst (conclude_follows (.ok ()) (atBench y.1.response y.2)))
  · rintro e rfl
    rw [Unconcluded, hs] at hu
    exact ⟨hu, hresult⟩

-- A handler that writes and then fails, over a link that loses its reply.
example :
    let request : RequestHead := { method := .get, target := "/", version := .http11 }
    let handler : Handler := [{ instruction := .respond (.write [112]) }, { instruction := .fail (.parse "boom") }]
    let link : Link := { faults := [⟨.reply, 0, .transport "gone"⟩] }
    let worker := Worker.new request (.seconds 1) 16 ({ version := .http11 } : ReplyState) handler
    let turns : List (WorkerTurn (Pieces × Link)) := [.step, .step, .step, .step]
    let x := course (turns.map WorkerTurn.watched) (worker, { bench := ({}, link) })
    let answer : Emission := .headers { status := .internalServerError } [] true
    x.1.result? = some (.error (.parse "boom")) ∧
      x.2.log = [.emit answer (.error (.transport "gone")), .discard (.ok ())] := by
  exact ⟨by rfl, by rfl⟩

end Worker

end FramedHttp
