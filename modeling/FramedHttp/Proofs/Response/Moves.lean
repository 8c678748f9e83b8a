import FramedHttp.Proofs.Response.Accepted
import Mathlib.Logic.Relation

/-!
# Calls and moves of a response

A byte-stream write is a write that is made again as often as it is interrupted; every other operation is
one call. What a call can do to a response is a sequence of few moves, each with the condition under which
it is made, whatever the sink answers. With a response goes the account of the octets it has accepted.
-/

set_option autoImplicit false

namespace FramedHttp

/-- The body octets that an emission carries. -/
def Emission.octets : Emission → Octets
  | .headers _ buffered _ => buffered
  | .body chunk _ => chunk
  | _ => []

/-- The operation is one call of the response itself. -/
def ResponseOp.isDirect : ResponseOp → Bool
  | .streamWrite _ | .streamFlush => false
  | _ => true

namespace Generator

variable {σ : Type} [Sink σ]

/-- The writes of a byte-stream write that may be interrupted so often. -/
def writeCalls (data : Octets) : Nat → Generator σ → List ResponseOp
  | 0, _ => [.write data]
  | tries + 1, g =>
    .write data ::
      match g.write data with
      | (.ok _, _) => []
      | (.error e, h) => if e.toWriteError.kind = .interrupted then writeCalls data tries h else []

def calls (op : ResponseOp) (g : Generator σ) : List ResponseOp :=
  match op with
  | .streamWrite data => if data.isEmpty then [] else writeCalls data (Sink.interruptions g.sink) g
  | .streamFlush => [.flush]
  | op => [op]

/-- The calls of a list of operations, one after the other. -/
def runCalls : List ResponseOp → Generator σ → List ResponseOp
  | [], _ => []
  | op :: ops, g => g.calls op ++ runCalls ops (g.perform op).2

theorem writeCalls_eq (data : Octets) (tries : Nat) (g : Generator σ) :
    ∀ c ∈ writeCalls data tries g, c = .write data := by
  induction tries generalizing g with
  | zero => simp [writeCalls]
  | succ tries ih =>
    intro c hc
    rcases List.mem_cons.mp hc with rfl | hc
    · rfl
    · rcases hr : g.write data with ⟨e | _, h⟩
      · rw [hr] at hc
        dsimp only at hc
        split at hc
        · exact ih h c hc
        · cases hc
      · rw [hr] at hc
        cases hc

theorem run_writeCalls (data : Octets) (tries : Nat) (g : Generator σ) :
    run (writeCalls data tries g) g = (g.writeThrough data tries).2 := by
  induction tries generalizing g with
  | zero =>
    change (g.write data).2 = _
    unfold writeThrough
    rcases g.write data with ⟨_ | _, h⟩ <;> rfl
  | succ tries ih =>
    rw [writeCalls, writeThrough, run]
    change run _ (g.write data).2 = _
    rcases g.write data with ⟨e | _, h⟩
    · dsimp only
      by_cases hi : e.toWriteError.kind = .interrupted
      · rw [if_pos hi, if_pos hi]
        exact ih h
      · rw [if_neg hi, if_neg hi]
        rfl
    · rfl

theorem direct_calls (op : ResponseOp) (g : Generator σ) : ∀ c ∈ g.calls op, c.isDirect = true := by
  intro c hc
  cases op with
  | streamWrite data =>
    simp only [calls] at hc
    split at hc
    · cases hc
    · rw [writeCalls_eq _ _ _ c hc]
      rfl
  | _ =>
    rw [List.mem_singleton.mp hc]
    rfl

theorem run_calls (op : ResponseOp) (g : Generator σ) : run (g.calls op) g = (g.perform op).2 := by
  cases op with
  | streamWrite data =>
    change run (g.calls (.streamWrite data)) g = (g.streamWrite data).2
    unfold calls streamWrite
    dsimp only
    split
    · rfl
    · exact run_writeCalls data _ g
  | streamFlush => exact (Outcome.mapError_snd _ _).symm
  | _ => rfl

/-- The calls of a run are direct. -/
theorem direct_runCalls (ops : List ResponseOp) (g : Generator σ) :
    ∀ c ∈ runCalls ops g, c.isDirect = true := by
  induction ops generalizing g with
  | nil => exact nofun
  | cons op ops ih =>
    intro c hc
    rcases List.mem_append.mp hc with hc | hc
    · exact direct_calls op g c hc
    · exact ih _ c hc

/-- A run is the run of its calls. -/
theorem run_runCalls (ops : List ResponseOp) (g : Generator σ) : run (runCalls ops g) g = run ops g := by
  induction ops generalizing g with
  | nil => rfl
  | cons op ops ih => rw [runCalls, run_append, run_calls, ih, run]

/-- A response without a body accepts no octets. -/
theorem accepted_omitted {g : Generator σ} (h : g.omitBody = true) (ops : List ResponseOp) :
    accepted ops g [] = [] := by
  induction ops generalizing g with
  | nil => rfl
  | cons op ops ih =>
    have ha : accept op g [] = [] := by
      cases op with
      | write data => simp [accept, h]
      | streamWrite data => simp [accept, h]
      | reset =>
        simp only [accept]
        split <;> rfl
      | _ => rfl
    rw [accepted, ha]
    exact ih ((run_omitBody [op] g).trans h)

/-- One move of a response: it changes itself, or hands something to its sink and goes on with whatever the
sink leaves. The octets are those accepted so far. -/
inductive Move : Generator σ × Octets → Generator σ × Octets → Prop
  | change {g : Generator σ} {octets : Octets} (hp : g.phase = .opened) (head : ResponseHead) :
      Move (g, octets) ({ g with head := head }, octets)
  | reset {g : Generator σ} {octets : Octets} (hp : g.phase = .opened) :
      Move (g, octets) ({ g with buffer := [], head := {} }, [])
  | gather {g : Generator σ} {octets : Octets} (hp : g.phase ≠ .completed) (ho : g.omitBody = false)
      (data : Octets) : Move (g, octets) ({ g with buffer := g.buffer ++ data }, octets ++ data)
  | commit {g : Generator σ} {octets : Octets} (hp : g.phase = .opened) (last : Bool)
      (hb : last = false → g.buffer ≠ []) : Move (g, octets) ((g.commit last).2, octets)
  | emitBuffer {g : Generator σ} {octets : Octets} (hp : g.phase = .committed) (hb : g.buffer ≠ [])
      (last : Bool) : Move (g, octets) ((g.emitBuffer last).2, octets)
  | close {g : Generator σ} {octets : Octets} (hp : g.phase = .committed) (hb : g.buffer = []) :
      Move (g, octets) (g.close.2, octets)
  | aside {g : Generator σ} {octets : Octets} (e : Emission) (he : e.kind? = none) :
      Move (g, octets) ((g.emit e).2, octets)

abbrev Moves : Generator σ × Octets → Generator σ × Octets → Prop := Relation.ReflTransGen Move

variable {g : Generator σ} {octets : Octets}

theorem changeHead_moves (f : ResponseHead → ResponseHead) : Moves (g, octets) (g.changeHead f, octets) := by
  by_cases hp : g.phase = .opened
  · rw [changeHead_opened hp]
    exact .single (.change hp _)
  · rw [changeHead_fixed hp]

theorem flush_moves : Moves (g, octets) (g.flush.2, octets) := by
  rcases flush_cases g with hi | ⟨hp, hb⟩ | ⟨hp, hb⟩
  · rw [flush_idle hi]
  · rw [flush_opened hp hb]
    exact .single (.commit hp false fun _ => hb)
  · rw [flush_committed hp hb]
    exact .single (.emitBuffer hp hb false)

theorem write_moves (data : Octets) : Moves (g, octets) ((g.write data).2, accept (.write data) g octets) := by
  rcases write_cases g data with hp | ⟨hp, ho⟩ | ⟨hp, ho, hc⟩ | ⟨hp, ho, hc⟩
  · rw [write_completed hp, accept, isComplete, hp]
    exact .refl
  · rw [write_omitted hp ho, accept, ho, Bool.or_true]
    exact .refl
  · have hm : Moves (g, octets) ({ g with buffer := g.buffer ++ data }, octets ++ data) :=
      .single (.gather hp ho data)
    rw [write_full hp ho hc]
    simpa [accept, isComplete, hp, ho] using hm.trans flush_moves
  · have hm : Moves (g, octets) ({ g with buffer := g.buffer ++ data }, octets ++ data) :=
      .single (.gather hp ho data)
    rw [write_short hp ho hc]
    simpa [accept, isComplete, hp, ho] using hm

theorem complete_moves : Moves (g, octets) (g.complete.2, octets) := by
  rcases complete_cases g with hp | hp | ⟨hp, hb⟩ | ⟨hp, hb⟩
  · rw [complete_idle hp]
  · have hm : Moves (g, octets) ((g.commit true).2, octets) := .single (.commit hp true nofun)
    rw [complete_opened hp]
    exact andThen_close_keeps (P := fun k => Moves (g, octets) (k, octets)) hm (hm.tail (.close rfl rfl))
  · rw [complete_drained hp hb]
    exact .single (.close hp hb)
  · have hm : Moves (g, octets) ((g.emitBuffer true).2, octets) := .single (.emitBuffer hp hb true)
    rw [complete_left hp hb]
    exact andThen_close_keeps (P := fun k => Moves (g, octets) (k, octets)) hm (hm.tail (.close hp rfl))

theorem reset_moves : Moves (g, octets) (g.reset.2, accept .reset g octets) := by
  by_cases hp : g.phase = .opened
  · simp only [accept, reset_opened hp]
    exact .single (.reset hp)
  · simp only [accept, reset_fixed hp]
    exact .refl

theorem aside_moves {op : ResponseOp} (h : op.isAside = true) : Moves (g, octets) ((g.perform op).2, octets) := by
  rcases aside_cases h g with hk | ⟨e, he, hk⟩
  · rw [hk]
  · rw [hk]
    exact .single (.aside e he)

/-- A call is made in moves. -/
theorem perform_moves {op : ResponseOp} (hd : op.isDirect = true) (g : Generator σ) (octets : Octets) :
    Moves (g, octets) ((g.perform op).2, accept op g octets) := by
  rcases op.kinds with hc | hv | ha | rfl
  · rw [perform_headChange hc, accept_headChange hc]
    exact changeHead_moves _
  · cases op with
    | write data => exact write_moves data
    | flush => exact flush_moves
    | complete => exact complete_moves
    | streamWrite | streamFlush => cases hd
    | _ => cases hv
  · rw [accept_aside ha]
    exact aside_moves ha
  · exact reset_moves

/-- What every move keeps, every run of calls keeps. -/
theorem run_moves {ops : List ResponseOp} (hd : ∀ op ∈ ops, op.isDirect = true) (g : Generator σ)
    (octets : Octets) : Moves (g, octets) (run ops g, accepted ops g octets) := by
  induction ops generalizing g octets with
  | nil => exact .refl
  | cons op ops ih =>
    exact (perform_moves (hd op (by simp)) g octets).trans (ih (fun o ho => hd o (by simp [ho])) _ _)

section Taken

variable {P : σ → Prop} (hP : ∀ {s : σ} {e : Emission}, P s → (Sink.emit e s).1 = .ok () → P (Sink.emit e s).2)
include hP

theorem andThen_close_taken {r : Outcome EngineError (Generator σ)} (hr : r.1 = .ok () → P r.2.sink)
    (hok : (r.andThen close).1 = .ok ()) : P (r.andThen close).2.sink := by
  obtain ⟨e | _, k⟩ := r
  · cases hok
  · exact hP (hr rfl) hok

theorem flush_taken (h : P g.sink) (hok : g.flush.1 = .ok ()) : P g.flush.2.sink := by
  rcases flush_cases g with hi | ⟨hp, hb⟩ | ⟨hp, hb⟩
  · rwa [flush_idle hi]
  · rw [flush_opened hp hb] at hok ⊢
    exact hP h hok
  · rw [flush_committed hp hb] at hok ⊢
    exact hP h hok

theorem write_taken (h : P g.sink) {data : Octets} (hok : (g.write data).1 = .ok ()) :
    P (g.write data).2.sink := by
  rcases write_cases g data with hp | ⟨hp, ho⟩ | ⟨hp, ho, hc⟩ | ⟨hp, ho, hc⟩
  · rwa [write_completed hp]
  · rwa [write_omitted hp ho]
  · rw [write_full hp ho hc] at hok ⊢
    exact flush_taken hP (g := { g with buffer := g.buffer ++ data }) h hok
  · rwa [write_short hp ho hc]

theorem complete_taken (h : P g.sink) (hok : g.complete.1 = .ok ()) : P g.complete.2.sink := by
  rcases complete_cases g with hp | hp | ⟨hp, hb⟩ | ⟨hp, hb⟩
  · rwa [complete_idle hp]
  · rw [complete_opened hp] at hok ⊢
    exact andThen_close_taken hP (fun hc => hP h hc) hok
  · rw [complete_drained hp hb] at hok ⊢
    exact hP h hok
  · rw [complete_left hp hb] at hok ⊢
    exact andThen_close_taken hP (fun hc => hP h hc) hok

/-- What a sink keeps while it takes what it is handed, a call that succeeds keeps. -/
theorem perform_taken {op : ResponseOp} (hd : op.isDirect = true) (h : P g.sink)
    (hok : (g.perform op).1 = .ok ()) : P (g.perform op).2.sink := by
  rcases op.kinds with hc | hv | ha | rfl
  · rw [perform_headChange hc, changeHead]
    split <;> exact h
  · cases op with
    | write data => exact write_taken hP h hok
    | flush => exact flush_taken hP h hok
    | complete => exact complete_taken hP h hok
    | streamWrite | streamFlush => cases hd
    | _ => cases hv
  · rcases aside_cases ha g with hk | ⟨e, _, hk⟩
    · rwa [hk]
    · rw [hk] at hok ⊢
      exact hP h hok
  · change P g.reset.2.sink
    unfold reset
    split <;> exact h

end Taken

end Generator

end FramedHttp
