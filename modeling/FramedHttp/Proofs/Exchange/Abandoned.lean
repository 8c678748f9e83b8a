import FramedHttp.Proofs.Exchange.SingleAnswer
import FramedHttp.Proofs.Stream.Abandoned

/-!
# Served streams whose body nobody reads

An exchange that has refused its request drops the body as it arrives, and does so whether or not its refusal
could be sent. Together with what holds of any engine, no body frame is ever held up by octets that nobody
will read, whatever else is done to the stream and however the turns fall.
-/

set_option autoImplicit false

namespace FramedHttp

open Content Content.Buffer

namespace Exchange

variable {σ : Type} [Sink (σ × Link)]

/-- An exchange takes octets from the body only where it drops a chunk. -/
theorem consumes_only : Engine.Consumes (Exchange σ) := by
  intro cb occasion s
  have hsame : Released s.buffer s.buffer := released_consume (Nat.zero_le _)
  cases cb with
  | chunk octets =>
    simp only [Engine.call, receive]
    split
    · simp only [releaseAt, Outcome.mapState_snd]
      split
      · next b hb => exact ⟨_, hb⟩
      · exact hsame
    · exact hsame
  | _ => exact hsame

theorem uses_only : Engine.Uses (Exchange σ) :=
  Engine.uses_of_consumes consumes_only

omit [Sink (σ × Link)] in
theorem start_refused (method target version : String) (x : Exchange σ) :
    (x.start method target version).refused = x.refused := by
  unfold start
  split <;> rfl

omit [Sink (σ × Link)] in
theorem dispatch_refused (sink : σ) (x : Exchange σ) : (x.dispatch sink).2.refused = x.refused := by
  unfold dispatch
  split
  · rfl
  · dsimp only
    split <;> rfl

theorem headersComplete_refused {x : Exchange σ} (h : x.refused = true) (link : Link) :
    (x.headersComplete link).2.1.refused = true := by
  unfold headersComplete
  split
  · exact h
  · dsimp only
    split
    · rfl
    · exact (dispatch_refused _ _).trans h

/-- The exchange has answered the request by itself. -/
def IsRefused (x : Exchange σ) : Prop :=
  x.refused = true

theorem refused_drops : Engine.Drops (IsRefused (σ := σ)) where
  kept cb occasion s h := by
    cases cb with
    | start method target version => exact (start_refused method target version s.engine).trans h
    | field => exact h
    | headersComplete => exact headersComplete_refused h s.link
    | chunk octets =>
      simp only [Engine.call, receive]
      split <;> exact h
    | complete => exact h
  whole occasion s h := by
    have hr : s.engine.refused = true := h
    have hb : s.buffer.release? s.buffer.fragment.length = some (s.buffer.consume s.buffer.fragment.length) :=
      if_pos (Nat.le_refl _)
    simp [Engine.call, receive, hr, releaseAt, hb]
  begins cb occasion s hcb h := by
    cases cb with
    | start method target version => exact (start_refused method target version s.engine).symm.trans h
    | field => exact h
    | headersComplete => exact absurd rfl hcb
    | chunk octets =>
      simp only [Engine.call, receive] at h
      split at h <;> exact h
    | complete => exact h

end Exchange

/-- What can happen on a served stream: a turn, or a use of the session by others than its worker. -/
inductive ServedOp where
  | turn (t : Turn)
  | use (op : SessionOp)
  deriving DecidableEq, Repr

open FramedHttp.Stream Exchange

/-- Kept by every call on a stream, and blind to what its worker does to itself and over the link. -/
structure Stream.KeptAside (P : Stream (Exchange ReplyState) → Prop) : Prop extends Kept P where
  link : ∀ {s : Stream (Exchange ReplyState)}, P s → ∀ l, P (s.withLink l)
  worker : ∀ {s : Stream (Exchange ReplyState)}, P s → ∀ w, P (s.withEngine { s.engine with worker := w })

namespace Session

/-- A session after turns and uses in some order, whatever each of them answered. -/
def live : List ServedOp → Served → Served
  | [], s => s
  | .turn t :: ops, s => live ops (s.turn t)
  | .use op :: ops, s => live ops (s.perform op).2

section Live

variable {P : Stream (Exchange ReplyState) → Prop} (hP : KeptAside P) {s : Served}
include hP

theorem worker_aside : Worker.Kept fun (_ : Generator ReplyState) (s : Served) => P s.stream where
  bench _ := source_keeps hP.toKept
  respond h _ := hP.link h _

theorem turn_keeps (hs : P s.stream) (t : Turn) : P (s.turn t).stream := by
  have hwith : ∀ x : Worker ReplyState × Served, P x.2.stream → P (withWorker x).stream :=
    fun x hx => hP.worker hx (some x.1)
  cases t with
  | deliver =>
    change P ((s.deliverNext.map Prod.snd).getD s).stream
    cases hr : s.deliverNext with
    | none => exact hs
    | some r => exact deliverNext_keeps hP.toKept hs hr
  | work =>
    change P (s.work.getD s).stream
    unfold work
    cases s.worker? with
    | none => exact hs
    | some w =>
      dsimp only
      cases hy : Worker.step (w, s) with
      | none => exact hs
      | some y => exact hwith y (Worker.kept_step (worker_aside hP) hs hy)
  | expire =>
    change P (if s.isWorkerWaiting then s.expireWorker else s).stream
    split
    · unfold expireWorker
      cases s.worker? with
      | none => exact hs
      | some w => exact hwith _ (Worker.kept_expire (x := (w, s)) (worker_aside hP) hs)
    · exact hs
  | receive frame => exact hP.receive hs frame
  | dispatch => exact hP.dispatch hs

theorem live_keeps (ops : List ServedOp) (hs : P s.stream) : P (live ops s).stream := by
  induction ops generalizing s with
  | nil => exact hs
  | cons op ops ih =>
    cases op with
    | turn t => exact ih (turn_keeps hP hs t)
    | use op =>
      have hu : P (s.perform op).2.stream := by
        rw [perform_replay]
        exact hP.replay hs _
      exact ih hu

end Live

theorem tidy_aside : KeptAside (Tidy IsRefused) where
  toKept := tidy_kept uses_only refused_drops
  link h _ := h
  worker h _ := h

theorem abandoned_aside : KeptAside fun s => s.pending = false ∧ Abandoned IsRefused s where
  toKept := abandoned_kept uses_only refused_drops
  link h _ := h
  worker h _ := h

theorem silent_aside (chunks : List Octets) : KeptAside (Silent chunks) where
  toKept := silent_kept uses_only
  link h _ := ⟨h.settled, h.given, h.empty, h.told⟩
  worker h _ := ⟨h.settled, h.given, h.empty, h.told⟩

/-- Once the body of a stream has been given up or its request was refused by the stream, or by the exchange
that serves it, the channel is drained after every call and no body frame is refused for octets unread,
whatever else is done and whether or not the refusal could be sent. Of a body that was given up no chunk is
told any more, and nobody who waits gets octets of it. -/
theorem body_never_held_up :
    (∀ {ε : Type} [Engine ε], Engine.Uses ε →
      ∀ (settings : Settings) (link : Link) (engine : ε) (calls more : List StreamCall),
        let s := (Stream.new settings link engine).replay calls
        let t := s.replay more
        s.rejected = true ∨ s.buffer.discarding = true →
          t.buffer.isDrained = true ∧ (∀ data last, ¬ Overlaps (t.onBody data last)) ∧
          (s.buffer.discarding = true →
            t.callbacks.filterMap Callback.chunk? = s.callbacks.filterMap Callback.chunk? ∧
            ∀ x : Session ε, x.stream = t → ∀ during maxIdle octets,
              (x.blockDuring (run during) maxIdle).1 ≠ .ok (some octets))) ∧
    ∀ (settings : Settings) (link : Link) (pressure : Bool) (handler : Handler) (ops more : List ServedOp),
      let s := live ops (new settings link pressure handler)
      let t := live more s
      s.stream.rejected = true ∨ s.buffer.discarding = true ∨ s.stream.engine.refused = true →
        t.buffer.isDrained = true ∧ (∀ data last, ¬ Overlaps (t.stream.onBody data last)) ∧
        (s.buffer.discarding = true →
          t.stream.callbacks.filterMap Callback.chunk? = s.stream.callbacks.filterMap Callback.chunk? ∧
          ∀ during maxIdle octets, (t.blockDuring (live during) maxIdle).1 ≠ .ok (some octets)) := by
  constructor
  · intro ε _ hε settings link engine calls more s t h
    have hs : Tidy (fun _ => False) s := (tidy_kept hε Engine.drops_never).replay (tidy_new _ settings link engine) calls
    have ha : Abandoned (fun _ => False) s := h.imp id .inl
    have ht : Tidy (fun _ => False) t := (tidy_kept hε Engine.drops_never).replay hs more
    have hta := (abandoned_kept hε Engine.drops_never).replay ⟨hs.1.1, ha⟩ more
    obtain ⟨hdrained, htaken⟩ := free_of_abandoned hε ht hta.2
    refine ⟨hdrained, htaken, fun hd => ?_⟩
    have hk : Kept (Silent (s.callbacks.filterMap Callback.chunk?)) := silent_kept hε
    have hsilent := hk.replay ⟨hs.1.1, hd, hs.2 ha, rfl⟩ more
    constructor
    · exact hsilent.told
    · intro x hx during maxIdle octets
      have hx : Silent (s.callbacks.filterMap Callback.chunk?) x.stream := hx ▸ hsilent
      exact blockDuring_nothing hk (fun hp => hp.empty) (fun {_} hy => run_keeps hk during hy) hx maxIdle octets
  · intro settings link pressure handler ops more s t h
    have hs : Tidy IsRefused s.stream := live_keeps tidy_aside ops (tidy_new _ settings link _)
    have ht : Tidy IsRefused t.stream := live_keeps tidy_aside more hs
    have hta := live_keeps abandoned_aside more (s := s) ⟨hs.1.1, h⟩
    obtain ⟨hdrained, htaken⟩ := free_of_abandoned uses_only ht hta.2
    refine ⟨hdrained, htaken, fun hd => ?_⟩
    have hk := silent_aside (s.stream.callbacks.filterMap Callback.chunk?)
    have hsilent := live_keeps hk more (s := s) ⟨hs.1.1, hd, hs.2 h, rfl⟩
    constructor
    · exact hsilent.told
    · intro during maxIdle octets
      exact blockDuring_nothing hk.toKept (fun hp => hp.empty) (fun {_} hy => live_keeps hk during hy) hsilent
        maxIdle octets

/-- A request with a method that nobody knows, whose refusal is lost, and a body that is given up besides. -/
theorem unknown_method_dropped :
    let first := Headers.ofPairs [("method", "BREW"), ("url", "/a"), ("version", "HTTP/1.1")]
    let link : Link := { faults := [⟨.reply, 0, .transport "gone"⟩] }
    let ops : List ServedOp := [.turn (.receive (.metadata first)), .turn (.receive .headersEnd),
      .turn (.receive (.body [1, 2] false))]
    let more : List ServedOp := [.use .discard, .use (.enqueue [.body [3] false]), .turn .deliver]
    let s := live ops (new {} link true [])
    let t := live more s
    s.stream.rejected = false ∧ s.stream.engine.refused = true ∧ s.link.replies = 1 ∧ s.link.sent = [] ∧
      t.buffer.isDrained = true ∧ (∀ data last, ¬ Overlaps (t.stream.onBody data last)) ∧
      s.stream.callbacks.filterMap Callback.chunk? = [[1, 2]] ∧
      t.stream.callbacks.filterMap Callback.chunk? = [[1, 2]] := by
  intro first link ops more s t
  have hrefused : s.stream.engine.refused = true := by decide +kernel
  obtain ⟨hdrained, htaken, _⟩ := body_never_held_up.2 {} link true [] ops more (.inr (.inr hrefused))
  exact ⟨by decide +kernel, hrefused, by decide +kernel, by decide +kernel, hdrained, htaken, by decide +kernel,
    by decide +kernel⟩

end Session

end FramedHttp
