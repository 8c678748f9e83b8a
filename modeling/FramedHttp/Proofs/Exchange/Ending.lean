import FramedHttp.Proofs.Content.Scripted
import FramedHttp.Proofs.Exchange.Conclusion

/-!
# Workers run to their end

Over a body in pieces there is always an answer, and nothing has to be waited for. Every step of a worker then
leaves less to do: an instruction, a piece of the body, or a part of the conclusion. So a worker that is run
without a stream comes to its end within the steps that it is granted, and joining its exchange answers as the
worker has concluded.
-/

set_option autoImplicit false

namespace FramedHttp

open Content Content.Pieces

namespace Content

namespace Pieces

/-- How many answers the pieces still hold, the unread part of a fragment among them. -/
def remaining (p : Pieces) : Nat :=
  p.left.length + if p.current = [] then 0 else 1

variable {p q : Pieces} {a : Await EngineError}

theorem Finds.remaining_le (h : Finds p a q) : q.remaining ≤ p.remaining := by
  cases h with
  | fragment =>
    simp only [remaining, List.length_cons, if_true]
    split <;> omega
  | _ => simp [remaining]

/-- A failure that is met is not met again. -/
theorem Finds.remaining_failed {e : EngineError} (h : Finds p (.failed e) q) : q.remaining < p.remaining := by
  cases h
  simp [remaining]

/-- A fragment that is taken whole is gone. -/
theorem Finds.remaining_taken {fragment : Octets} (h : Finds p (.content fragment) q) :
    ({ q with current := [] } : Pieces).remaining < p.remaining := by
  cases h with
  | unread h => simp [remaining, h]
  | fragment => simp [remaining]

theorem remaining_drop (n : Nat) (q : Pieces) :
    ({ q with current := q.current.drop n } : Pieces).remaining ≤ q.remaining := by
  by_cases hq : q.current = []
  · simp [remaining, hq]
  · simp only [remaining, if_neg hq]
    split <;> omega

theorem remaining_consume (n : Nat) (q : Pieces) : (q.consume n).2.remaining ≤ q.remaining := by
  unfold consume
  split
  · exact remaining_drop n q
  · exact Nat.le_refl _

end Pieces

/-- A reading goes on only after some octets, and fewer than it wanted. -/
theorem receive_more {r next : Reading} {octets : Octets} (h : r.receive octets = .more next) :
    octets ≠ [] ∧ ∀ n, r.wanted = some n → octets.length < n := by
  unfold Reading.receive at h
  unfold Reading.wanted
  cases hg : r.goal with
  | once most => simp [hg] at h
  | toEnd =>
    simp only [hg] at h
    split at h
    · cases h
    · next ho => exact ⟨by simpa using ho, nofun⟩
  | exactly m =>
    simp only [hg] at h
    split at h
    · cases h
    · next ho =>
      split at h
      · cases h
      · next hm =>
        rw [List.length_append] at hm
        refine ⟨by simpa using ho, ?_⟩
        rintro _ ⟨⟩
        omega

section Script

variable {γ : Type} [Source γ] {view : γ → Pieces} (h : Scripted view)
include h

theorem Scripted.never_waits (waits : Bool) (s : γ) : (Source.await waits s).1 ≠ .waiting := by
  intro hw
  have hf := h.finds waits s
  rw [hw] at hf
  exact Finds.not_waiting hf

/-- A step of a reading leaves no more than there was, and less if the reading goes on. -/
theorem Scripted.step_remaining (r : Reading) (s : γ) :
    (view (r.step s).2).remaining ≤ (view s).remaining ∧
      ∀ next, (r.step s).1 = .more next → (view (r.step s).2).remaining < (view s).remaining := by
  have hf := h.finds r.waits s
  unfold Reading.step read
  split
  · next hw =>
    refine ⟨Nat.le_refl _, fun next hm => ?_⟩
    exact absurd rfl (receive_more hm).1
  · rcases ha : Source.await r.waits s with ⟨fragment | _ | e | _, t⟩ <;> rw [ha] at hf
    · have hlen : (Reading.cut r.wanted fragment).length ≤ (view t).current.length := by
        rw [hf.content]
        cases r.wanted with
        | none => exact Nat.le_refl _
        | some n => exact List.length_take_le' n fragment
      obtain ⟨u, hc, hu⟩ := h.consume_ok hlen
      dsimp only
      rw [hc, hu]
      refine ⟨Nat.le_trans (remaining_drop _ _) hf.remaining_le, fun next hm => ?_⟩
      -- A reading that goes on has taken the fragment whole.
      have hwhole : (view t).current.drop (Reading.cut r.wanted fragment).length = [] := by
        have hfew := (receive_more hm).2
        rw [hf.content, List.drop_eq_nil_iff]
        cases hw : r.wanted with
        | none => exact Nat.le_refl _
        | some n =>
          have hn := hfew n hw
          rw [hw] at hn
          simp only [Reading.cut, List.length_take] at hn ⊢
          omega
      rw [hwhole]
      exact hf.remaining_taken
    · exact ⟨hf.remaining_le, fun next hm => absurd rfl (receive_more hm).1⟩
    · exact ⟨hf.remaining_le, fun _ _ => hf.remaining_failed⟩
    · exact absurd hf Finds.not_waiting

end Script

theorem remaining_drain (n : Nat) (p : Pieces) :
    (drain Pieces.await Pieces.consume n p).2.remaining ≤ p.remaining := by
  induction n generalizing p with
  | zero => exact Nat.le_refl _
  | succ n ih =>
    have hf := p.await_finds.remaining_le
    rw [drain]
    rcases ha : p.await with ⟨fragment | _ | e | _, q⟩ <;> rw [ha] at hf
    · have hc := remaining_consume fragment.length q
      dsimp only
      rcases hr : q.consume fragment.length with ⟨_ | _, u⟩ <;> rw [hr] at hc
      · exact Nat.le_trans hc hf
      · exact Nat.le_trans (ih u) (Nat.le_trans hc hf)
    · exact hf
    · exact hf
    · exact hf

end Content

namespace Worker

variable {σ ο : Type}

theorem scripted_bench : Scripted (Prod.fst : Pieces × ο → Pieces) where
  await _ _ := rfl
  consume _ _ _ := rfl

theorem serves_remaining (m : Nat) : Serves fun s : Pieces × ο => s.1.remaining ≤ m where
  await {s} h _ := Nat.le_trans s.1.await_finds.remaining_le h
  consume {s} h n := Nat.le_trans (remaining_consume n s.1) h
  discard {s} h := Nat.le_trans (remaining_drain _ s.1) h

/-- A bound on the steps to the end: two for every instruction, one for every answer that the pieces still hold,
three for the conclusion, and one more while a reading is under way. -/
def effort (x : Worker σ × (Pieces × ο)) : Nat :=
  match x.1.stage with
  | .handling todo => 2 * todo.length + x.2.1.remaining + 3
  | .reading _ _ _ todo => 2 * todo.length + x.2.1.remaining + 4
  | .responding _ => 2
  | .disposing _ => 1
  | .finished _ | .crashed => 0

/-- The steps that a worker is granted are enough. -/
theorem effort_le_stepsLeft (x : Worker σ × (Pieces × ο)) : effort x ≤ stepsLeft x := by
  have hreads : x.2.1.remaining ≤ Source.reads x.2 := by
    change x.2.1.left.length + _ ≤ x.2.1.left.length + 2
    split <;> omega
  unfold effort stepsLeft
  generalize Source.reads x.2 = reads at hreads
  have hlines : ∀ todo : Handler, 2 * todo.length ≤ todo.length * (reads + 4) := by
    intro todo
    rw [Nat.mul_comm]
    exact Nat.mul_le_mul_left _ (by omega)
  cases x.1.stage with
  | handling todo | reading _ _ _ todo =>
    have h := hlines todo
    simp only [Nat.add_mul]
    omega
  | _ => simp

theorem record_effort (result : Except EngineError Answer) (catches : Bool) (todo : Handler) (w : Worker σ)
    (s : Pieces × ο) :
    effort (w.record result catches todo, s) ≤ 2 * todo.length + s.1.remaining + 3 := by
  cases result with
  | ok answer => exact Nat.le_refl _
  | error e =>
    cases catches with
    | true => exact Nat.le_refl _
    | false => exact Nat.le_add_left 2 (2 * todo.length + s.1.remaining + 1)

variable [Sink (σ × ο)]

theorem deliver_effort (purpose : Purpose) (catches : Bool) (todo : Handler)
    (result : Except EngineError Octets) (x : Worker σ × (Pieces × ο)) :
    effort (deliver purpose catches todo result x) ≤ 2 * todo.length + x.2.1.remaining + 3 := by
  unfold deliver
  split <;> exact record_effort _ catches todo _ _

theorem proceed_effort (purpose : Purpose) (catches : Bool) (todo : Handler) (p : Progress)
    (x : Worker σ × (Pieces × ο)) :
    effort (proceed purpose catches todo p x) ≤ 2 * todo.length + x.2.1.remaining + 4 := by
  cases p with
  | done result => exact Nat.le_succ_of_le (deliver_effort purpose catches todo result x)
  | more r => exact Nat.le_refl _
  | waiting r => exact Nat.le_refl _

theorem perform_effort (line : HandlerLine) (todo : Handler) (x : Worker σ × (Pieces × ο)) :
    effort (perform line todo x) ≤ 2 * todo.length + x.2.1.remaining + 4 := by
  unfold perform
  split
  · exact Nat.le_succ_of_le (record_effort _ line.catches todo _ _)
  · exact Nat.le_succ_of_le (record_effort _ line.catches todo _ _)
  · exact Nat.le_succ_of_le (record_effort _ line.catches todo _ _)
  · exact Nat.le_succ_of_le (record_effort _ line.catches todo _ _)
  · exact Nat.le_succ_of_le (record_effort _ line.catches todo _ _)
  · exact Nat.zero_le _
  · exact proceed_effort _ _ _ _ x
  · next op _ =>
    split
    · exact proceed_effort _ _ _ _ x
    · have hr := record_effort ((op.immediate x.2).1.map .body) line.catches todo x.1 (op.immediate x.2).2
      have hi := immediate_keeps (serves_remaining x.2.1.remaining) (Nat.le_refl _) op
      dsimp only at hi ⊢
      omega

variable {x y : Worker σ × (Pieces × ο)}

/-- Every step leaves less to do. -/
theorem step_effort (h : step x = some y) : effort y < effort x := by
  unfold step at h
  cases hs : x.1.stage with
  | handling todo =>
    rw [hs] at h
    cases todo with
    | nil =>
      cases h
      simp [effort, hs]
    | cons line todo =>
      cases h
      have hp := perform_effort line todo x
      simp only [effort, hs, List.length_cons] at hp ⊢
      omega
  | reading r purpose catches todo =>
    rw [hs] at h
    have hx : effort x = 2 * todo.length + x.2.1.remaining + 4 := by simp [effort, hs]
    obtain ⟨hle, hmore⟩ := scripted_bench.step_remaining r x.2
    have hm := step_moving (scripted_bench.never_waits r.waits x.2)
    rcases hr : r.step x.2 with ⟨p, t⟩
    simp only [hr] at h hle hmore hm
    cases p with
    | done result =>
      cases h
      have hd := deliver_effort purpose catches todo result (x.1, t)
      rw [hx]
      change effort (deliver purpose catches todo result (x.1, t)) < _
      dsimp only at hd
      omega
    | more next =>
      cases h
      have hlt := hmore next rfl
      rw [hx]
      change 2 * todo.length + t.1.remaining + 4 < _
      omega
    | waiting next => exact hm.elim
  | responding outcome =>
    rw [hs] at h
    cases h
    simp [effort, hs]
  | disposing outcome =>
    rw [hs] at h
    cases h
    simp [effort, hs]
  | finished outcome | crashed =>
    rw [hs] at h
    cases h

/-- A worker that has no step to make has come to its end. -/
theorem step_ended (h : step x = none) : x.1.isFinished = true := by
  unfold step at h
  cases hs : x.1.stage with
  | handling todo =>
    rw [hs] at h
    cases todo <;> cases h
  | reading r purpose catches todo =>
    rw [hs] at h
    have hm := step_moving (scripted_bench.never_waits r.waits x.2)
    rcases hr : r.step x.2 with ⟨p, t⟩
    simp only [hr] at h hm
    cases p with
    | done | more => cases h
    | waiting => exact hm.elim
  | responding | disposing =>
    rw [hs] at h
    cases h
  | finished | crashed => simp [isFinished, hs]

omit [Sink (σ × ο)] in
theorem finished_not_waiting {w : Worker σ} (h : w.isFinished = true) : w.isWaiting = false := by
  unfold isFinished at h
  unfold isWaiting
  cases hs : w.stage with
  | finished | crashed => rfl
  | _ => simp [hs] at h

/-- With enough steps a worker comes to its end. -/
theorem runUpTo_ended {n : Nat} (h : effort x ≤ n) : (runUpTo n x).1.isFinished = true := by
  induction n generalizing x with
  | zero =>
    rw [runUpTo]
    unfold effort at h
    cases hs : x.1.stage with
    | finished | crashed => simp [isFinished, hs]
    | _ => simp [hs] at h
  | succ n ih =>
    rw [runUpTo]
    cases hs : step x with
    | some y =>
      have hlt := step_effort hs
      exact ih (by omega)
    | none =>
      have hended := step_ended hs
      simp [finished_not_waiting hended, hended]

end Worker

namespace DirectExchange

open Worker

/-- The first time that it is asked for, the result is that of the worker, run within the steps that it is granted. -/
theorem join_result {s : DirectExchange} {w : Worker Framing} (hw : s.exchange.worker = some w)
    (hj : s.exchange.joined = false) {result : Except EngineError Unit}
    (hr : (runUpTo (stepsLeft (w, s.body, s.writer)) (w, s.body, s.writer)).1.result? = some result) :
    s.join.1 = result := by
  simp [join, hw, Exchange.join, hj, hr]

/-- An exchange that is called directly always learns how its worker ended: that it crashed, or the error of the
handler, or else the answer of the completion. -/
theorem join_concluded {s : DirectExchange} {w : Worker Framing} (hw : s.exchange.worker = some w)
    (hj : s.exchange.joined = false) (hu : w.Unconcluded) :
    ∃ turns : List (WorkerTurn (Pieces × Writer)), (∀ t ∈ turns, t = .step ∨ t = .expire) ∧
      let y := course turns (w, s.body, s.writer)
      (y.1.stage = .crashed ∧ s.join.1 = .error (.illegalState .workerCrashed)) ∨
      ∃ outcome, y.1.stage = .responding outcome ∧
        (outcome = .ok () → s.join.1 = (atBench y.1.response y.2).complete.1) ∧
        ∀ e, outcome = .error e → y.1.log.getLast? = some (.error e) ∧ s.join.1 = .error e := by
  have hended := runUpTo_ended (effort_le_stepsLeft (w, s.body, s.writer))
  have hjoin := fun result => @join_result s w hw hj result
  generalize hy : runUpTo (stepsLeft (w, s.body, s.writer)) (w, s.body, s.writer) = y at hended hjoin
  unfold isFinished at hended
  cases hs : y.1.stage with
  | finished result =>
    have hr : s.join.1 = result := hjoin result (by simp [result?, hs])
    rw [← hy] at hs
    obtain ⟨earlier, outcome, hown, hc⟩ := runUpTo_concluded hu hs
    rw [← hr] at hc
    exact ⟨earlier, hown, .inr ⟨outcome, hc⟩⟩
  | crashed =>
    obtain ⟨turns, hown, hc⟩ := runUpTo_course (stepsLeft (w, s.body, s.writer)) (w, s.body, s.writer)
    rw [hy] at hc
    refine ⟨turns, hown, .inl ?_⟩
    rw [← hc]
    exact ⟨hs, hjoin _ (by simp [result?, hs])⟩
  | _ => simp [hs] at hended

end DirectExchange

end FramedHttp
