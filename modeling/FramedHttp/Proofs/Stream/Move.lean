import FramedHttp.Stream.Basic
import Mathlib.Logic.Relation

/-!
# What a stream can do

Every call of a stream is a sequence of moves. A move enters one stage and performs its action, whatever
the engine answers; only the request line is decided by the stream itself. What every move keeps is
therefore kept by every call, and no transition is left pending between calls.
-/

set_option autoImplicit false

namespace FramedHttp

theorem RequestLine.field_malformed {h : Headers} {name : String} {e : StreamError}
    (he : field h name = .error e) : ∃ what, e = .malformedRequest what := by
  unfold field at he
  split at he
  · cases he
  · exact ⟨_, (Except.error.inj he).symm⟩

theorem RequestLine.error_malformed {h : Headers} {e : StreamError} (he : ofHeaders h = .error e) :
    ∃ what, e = .malformedRequest what := by
  simp only [ofHeaders, bind, Except.bind] at he
  cases hm : field h "method" with
  | error _ => rw [hm] at he; cases he; exact field_malformed hm
  | ok _ =>
    cases ht : field h "url" with
    | error _ => rw [hm, ht] at he; cases he; exact field_malformed ht
    | ok _ =>
      cases hv : field h "version" with
      | error _ => rw [hm, ht, hv] at he; cases he; exact field_malformed hv
      | ok _ => rw [hm, ht, hv] at he; cases he

/-- A request line is not read out of nothing. -/
theorem RequestLine.nonempty_of_ok {h : Headers} {line : RequestLine} (hl : ofHeaders h = .ok line) :
    h.isEmpty = false := by
  cases he : h.isEmpty with
  | false => rfl
  | true =>
    have hn : h.get? "method" = none := by
      simp [Headers.get?, List.isEmpty_iff.mp he]
    simp [ofHeaders, field, hn, bind, Except.bind] at hl

/-- The call fails with nothing but the engine's own errors. -/
def Outcome.EngineOnly {σ : Type} (r : Outcome StreamError σ) : Prop :=
  ∀ e, r.1 = .error e → ∃ cause, e = .http cause

theorem Outcome.engine_only_ok {σ : Type} (s : σ) : EngineOnly (.ok (), s) := by
  intro e h
  cases h

theorem Outcome.engine_only_andThen {σ : Type} {r : Outcome StreamError σ}
    {next : σ → Outcome StreamError σ} (hr : EngineOnly r) (hn : ∀ s, EngineOnly (next s)) :
    EngineOnly (r.andThen next) :=
  andThen_cases (P := EngineOnly) (fun _ he d hd => hr d (he.trans hd)) fun _ => hn r.2

/-- Where the engine does not fail, the call succeeds. -/
theorem Outcome.ok_of_engine_only {σ : Type} {r : Outcome StreamError σ} (h : EngineOnly r)
    (hn : ∀ cause, r.1 ≠ .error (.http cause)) : r.1 = .ok () := by
  obtain ⟨e | _, s⟩ := r
  · obtain ⟨cause, rfl⟩ := h _ rfl
    exact absurd rfl (hn cause)
  · rfl

namespace Stream

variable {ε : Type}

/-- The stream in a stage of which only the action is left to do. -/
def reach (state : Lifecycle) (s : Stream ε) : Stream ε :=
  { s with state := state, pending := false }

@[simp] theorem reach_state (state : Lifecycle) (s : Stream ε) : (s.reach state).state = state := rfl

@[simp] theorem reach_pending (state : Lifecycle) (s : Stream ε) : (s.reach state).pending = false := rfl

@[simp] theorem reach_rejected (state : Lifecycle) (s : Stream ε) :
    (s.reach state).rejected = s.rejected := rfl

@[simp] theorem reach_metadata (state : Lifecycle) (s : Stream ε) :
    (s.reach state).metadata = s.metadata := rfl

@[simp] theorem reach_callbacks (state : Lifecycle) (s : Stream ε) :
    (s.reach state).callbacks = s.callbacks := rfl

@[simp] theorem reach_seat (state : Lifecycle) (s : Stream ε) : (s.reach state).seat = s.seat := rfl

@[simp] theorem withBuffer_state (b : Content.Buffer) (s : Stream ε) :
    (s.withBuffer b).state = s.state := rfl

@[simp] theorem withBuffer_pending (b : Content.Buffer) (s : Stream ε) :
    (s.withBuffer b).pending = s.pending := rfl

@[simp] theorem withBuffer_rejected (b : Content.Buffer) (s : Stream ε) :
    (s.withBuffer b).rejected = s.rejected := rfl

@[simp] theorem withBuffer_callbacks (b : Content.Buffer) (s : Stream ε) :
    (s.withBuffer b).callbacks = s.callbacks := rfl

@[simp] theorem withBuffer_buffer (b : Content.Buffer) (s : Stream ε) : (s.withBuffer b).buffer = b := rfl

theorem unlessRejected_keeps {P : Stream ε → Prop} {s : Stream ε}
    {next : Stream ε → Outcome StreamError (Stream ε)} (hs : P s) (hn : P (next s).2) :
    P (s.unlessRejected next).2 := by
  unfold unlessRejected
  split
  · exact hs
  · exact hn

variable [Engine ε]

section Invoke

variable (cb : Callback) (s : Stream ε)

@[simp] theorem invoke_state : (s.invoke cb).2.state = s.state := by simp [invoke]

@[simp] theorem invoke_pending : (s.invoke cb).2.pending = s.pending := by simp [invoke]

@[simp] theorem invoke_rejected : (s.invoke cb).2.rejected = s.rejected := by simp [invoke]

@[simp] theorem invoke_metadata : (s.invoke cb).2.metadata = s.metadata := by simp [invoke]

@[simp] theorem invoke_callbacks : (s.invoke cb).2.callbacks = s.callbacks ++ [cb] := by simp [invoke]

@[simp] theorem invoke_translator : (s.invoke cb).2.translator = s.translator := by simp [invoke]

theorem invoke_snd : (s.invoke cb).2 =
    { s with
      callbacks := s.callbacks ++ [cb]
      seat := (Engine.call cb { state := s.state, earlier := s.callbacks } s.seat).2 } := by
  simp [invoke]

/-- A callback that the engine takes. -/
theorem invoke_ok {cb : Callback} {s : Stream ε}
    (h : (Engine.call cb { state := s.state, earlier := s.callbacks } s.seat).1 = .ok ()) :
    s.invoke cb = (.ok (), (s.invoke cb).2) := by
  have hok : (s.invoke cb).1 = .ok () := by
    simp only [invoke, Outcome.mapError, Outcome.mapState, h]
  exact Prod.ext hok rfl

theorem invoke_engine_only : (s.invoke cb).EngineOnly := by
  intro e h
  unfold invoke at h
  rcases hr : Engine.call cb { state := s.state, earlier := s.callbacks } s.seat with ⟨c | _, seat⟩
  · rw [hr] at h
    exact ⟨c, (Except.error.inj h).symm⟩
  · rw [hr] at h
    cases h

end Invoke

/-- What each of the callbacks keeps, attempting them in turn keeps, however far it gets. -/
theorem invokeAll_keeps {P : Stream ε → Prop} {cbs : List Callback}
    (hP : ∀ cb ∈ cbs, ∀ t, P t → P (t.invoke cb).2) {s : Stream ε} (hs : P s) :
    P (invokeAll cbs s).2 := by
  induction cbs generalizing s with
  | nil => exact hs
  | cons cb rest ih =>
    exact Outcome.andThen_keeps (hP cb (by simp) s hs)
      fun t ht => ih (fun c hc => hP c (by simp [hc])) ht

/-- Callbacks that the engine takes, one after the other. -/
theorem invokeAll_ok {P : Stream ε → Prop} {cbs : List Callback}
    (hP : ∀ cb ∈ cbs, ∀ t, P t → ∃ u, t.invoke cb = (.ok (), u) ∧ P u) {s : Stream ε} (hs : P s) :
    ∃ t, invokeAll cbs s = (.ok (), t) ∧ P t := by
  induction cbs generalizing s with
  | nil => exact ⟨s, rfl, hs⟩
  | cons cb rest ih =>
    obtain ⟨u, hu, hpu⟩ := hP cb (by simp) s hs
    obtain ⟨t, ht, hpt⟩ := ih (fun c hc => hP c (by simp [hc])) hpu
    have hall : invokeAll (cb :: rest) s = (.ok (), t) := by
      rw [invokeAll, hu]
      exact ht
    exact ⟨t, hall, hpt⟩

theorem invokeAll_engine_only (cbs : List Callback) (s : Stream ε) : (invokeAll cbs s).EngineOnly := by
  induction cbs generalizing s with
  | nil => exact Outcome.engine_only_ok s
  | cons cb rest ih => exact Outcome.engine_only_andThen (invoke_engine_only cb s) ih

theorem forwardFields_keeps {P : Stream ε → Prop}
    (hP : ∀ (f : Field) t, P t → P (t.invoke (.field f.name f.value)).2) {s : Stream ε}
    (hs : P { s with metadata := none }) : P s.forwardFields.2 := by
  unfold forwardFields
  split
  · next h => rwa [← h] at hs
  · apply invokeAll_keeps _ hs
    intro cb hcb t ht
    obtain ⟨f, _, rfl⟩ := List.mem_map.mp hcb
    exact hP f t ht

theorem forwardFields_pending (s : Stream ε) : s.forwardFields.2.pending = s.pending :=
  forwardFields_keeps (P := fun t => t.pending = s.pending) (fun _ t ht => (invoke_pending _ t).trans ht) rfl

theorem forwardFields_state (s : Stream ε) : s.forwardFields.2.state = s.state :=
  forwardFields_keeps (P := fun t => t.state = s.state) (fun _ t ht => (invoke_state _ t).trans ht) rfl

theorem forwardFields_engine_only (s : Stream ε) : s.forwardFields.EngineOnly := by
  unfold forwardFields
  split
  · exact Outcome.engine_only_ok s
  · exact invokeAll_engine_only _ _

theorem announceChunk_pending (s : Stream ε) : s.announceChunk.2.pending = s.pending := by
  unfold announceChunk
  split
  · rfl
  · exact invoke_pending _ _

theorem announceChunk_state (s : Stream ε) : s.announceChunk.2.state = s.state := by
  unfold announceChunk
  split
  · rfl
  · exact invoke_state _ _

theorem announceChunk_engine_only (s : Stream ε) : s.announceChunk.EngineOnly := by
  unfold announceChunk
  split
  · exact Outcome.engine_only_ok s
  · exact invoke_engine_only _ _

/-- Only reading the request line makes another transition pending. -/
theorem act_pending (s : Stream ε) (h : s.state ≠ .requestLine) : s.act.2.pending = s.pending := by
  unfold act
  split
  · rfl
  · exact absurd ‹_› h
  · exact forwardFields_pending s
  · exact invoke_pending _ s
  · exact announceChunk_pending s
  · exact invoke_pending _ s

theorem act_engine_only (s : Stream ε) (h : s.state ≠ .requestLine) : s.act.EngineOnly := by
  unfold act
  split
  · exact Outcome.engine_only_ok s
  · exact absurd ‹_› h
  · exact forwardFields_engine_only s
  · exact invoke_engine_only _ s
  · exact announceChunk_engine_only s
  · exact invoke_engine_only _ s

theorem dispatchUpTo_settled (n : Nat) (s : Stream ε) (h : s.pending = false) :
    dispatchUpTo n s = (.ok (), s) := by
  cases n with
  | zero => rfl
  | succ n => simp [dispatchUpTo, h]

/-- With nothing pending, dispatching does nothing. -/
theorem dispatch_settled (s : Stream ε) (h : s.pending = false) : s.dispatch = (.ok (), s) :=
  dispatchUpTo_settled _ s h

theorem andThen_dispatchUpTo (n : Nat) (r : Outcome StreamError (Stream ε)) (h : r.2.pending = false) :
    r.andThen (dispatchUpTo n) = r := by
  obtain ⟨_ | _, s⟩ := r
  · rfl
  · exact dispatchUpTo_settled n s h

theorem run_of_dispatch {r : Outcome StreamError (Stream ε)} {s : Stream ε} (hd : s.dispatch = r)
    (hr : r.EngineOnly) : s.run = r := by
  subst hd
  unfold run
  split
  · next h =>
    obtain ⟨_, hc⟩ := hr _ (congrArg Prod.fst h)
    cases hc
  · rfl

/-- Entering any stage but the request line performs the action of that stage and no other. -/
theorem run_enter {state : Lifecycle} (h : state ≠ .requestLine) (s : Stream ε) :
    (s.enter state).run = (s.reach state).act := by
  have hp : (s.reach state).act.2.pending = false := act_pending _ h
  have hd : (s.enter state).dispatch = (s.reach state).act := andThen_dispatchUpTo 5 _ hp
  exact run_of_dispatch hd (act_engine_only _ h)

/-- The first metadata is stored, and its request line is about to be read. -/
def opening (headers : Headers) (s : Stream ε) : Stream ε :=
  { s with metadata := some headers }.reach .requestLine

/-- An incomplete request line is refused. -/
theorem run_incomplete (s : Stream ε) {headers : Headers} {e : StreamError}
    (h : RequestLine.ofHeaders headers = .error e) :
    ({ s with metadata := some headers }.enter .requestLine).run = (s.opening headers).reject e := by
  obtain ⟨what, rfl⟩ := RequestLine.error_malformed h
  have ha : (s.opening headers).act = (.error (.malformedRequest what), s.opening headers) := by
    simp [act, opening, startRequest, h]
  have hd : ({ s with metadata := some headers }.enter .requestLine).dispatch =
      (.error (.malformedRequest what), s.opening headers) := by
    change ((s.opening headers).act).andThen _ = _
    rw [ha]
    rfl
  simp only [run, hd]

/-- A complete request line starts the request; the fields beside it are forwarded next. -/
theorem run_complete (s : Stream ε) {headers : Headers} {line : RequestLine}
    (h : RequestLine.ofHeaders headers = .ok line) :
    ({ s with metadata := some headers }.enter .requestLine).run =
      ((s.opening headers).invoke (.start line.method line.target line.version)).andThen fun t =>
        (t.reach .headerFields).forwardFields := by
  apply run_of_dispatch
  · change ((s.opening headers).act).andThen _ = _
    have ha : (s.opening headers).act = ((s.opening headers).invoke
        (.start line.method line.target line.version)).andThen fun t => (.ok (), t.enter .headerFields) := by
      simp [act, opening, startRequest, h]
    rw [ha, Outcome.andThen_assoc]
    congr 1
    funext t
    exact andThen_dispatchUpTo 4 _ (forwardFields_pending _)
  · exact Outcome.engine_only_andThen (invoke_engine_only _ _) fun t => forwardFields_engine_only _

/-- One move of a stream between two calls: the stage it enters, and the action of that stage. -/
inductive Move : Stream ε → Stream ε → Prop
  | start {s : Stream ε} {headers : Headers} {line : RequestLine} (hr : s.rejected = false)
      (hs : s.state = .initial) (hne : headers.isEmpty = false)
      (hl : RequestLine.ofHeaders headers = .ok line) :
      Move s ((s.opening headers).invoke (.start line.method line.target line.version)).2
  | reject {s : Stream ε} {headers : Headers} {e : StreamError} (hr : s.rejected = false)
      (hs : s.state = .initial) (hne : headers.isEmpty = false)
      (hl : RequestLine.ofHeaders headers = .error e) : Move s ((s.opening headers).reject e).2
  | fields {s : Stream ε} (headers : Headers) (hr : s.rejected = false)
      (hs : s.state = .requestLine ∨ s.state = .headerFields) :
      Move s ({ s with metadata := some headers }.reach .headerFields).forwardFields.2
  | headersEnd {s : Stream ε} (hr : s.rejected = false)
      (hs : s.state = .requestLine ∨ s.state = .headerFields) :
      Move s ((s.reach .headersComplete).invoke .headersComplete).2
  | body {s : Stream ε} {data : Octets} {last : Bool} {b : Content.Buffer} (hr : s.rejected = false)
      (hs : s.state.isReading = true) (hb : s.buffer.fill data last = .ok b) :
      Move s ((s.withBuffer b).reach .body).announceChunk.2
  | finish {s : Stream ε} (hr : s.rejected = false) (hs : s.state.isReading = true) :
      Move s (((s.withBuffer s.buffer.markComplete).reach .final).invoke (.complete 0)).2

/-- What a call does to a stream: some moves, one after the other. -/
abbrev Moves : Stream ε → Stream ε → Prop := Relation.ReflTransGen Move

theorem move_pending {s t : Stream ε} (h : Move s t) : t.pending = false := by
  cases h with
  | start => exact invoke_pending _ _
  | reject => rfl
  | fields => exact forwardFields_pending _
  | headersEnd => exact invoke_pending _ _
  | body => exact announceChunk_pending _
  | finish => exact invoke_pending _ _

/-- A move never leads back to an earlier stage. -/
theorem move_number {s t : Stream ε} (h : Move s t) : s.state.number ≤ t.state.number := by
  cases h with
  | start hr hs => simp [hs, opening, Lifecycle.number]
  | reject hr hs => simp [hs, Lifecycle.number]
  | fields headers hr hs =>
    rw [forwardFields_state]
    rcases hs with hs | hs <;> simp [hs, Lifecycle.number]
  | headersEnd hr hs => rcases hs with hs | hs <;> simp [hs, Lifecycle.number]
  | body hr hs =>
    rw [announceChunk_state]
    cases hc : s.state <;> simp [hc, Lifecycle.isReading] at hs <;> simp [Lifecycle.number]
  | finish hr hs => cases hc : s.state <;> simp [hc, Lifecycle.isReading] at hs <;> simp [Lifecycle.number]

/-- What a callback, an accepted body frame, an end mark and a refusal keep of a seat, a move keeps. -/
theorem move_seat {R : Seat ε → Prop} (hcall : ∀ {cb occasion seat}, R seat → R (Engine.call cb occasion seat).2)
    (hfill : ∀ {seat data last b}, R seat → seat.buffer.fill data last = .ok b → R { seat with buffer := b })
    (hmark : ∀ {seat}, R seat → R { seat with buffer := seat.buffer.markComplete })
    (hreply : ∀ {seat} headers, R seat → R { seat with link := (seat.link.sendReply headers true).2 })
    {s t : Stream ε} (h : R s.seat) (hm : Move s t) : R t.seat := by
  have hi : ∀ (u : Stream ε) (cb : Callback), R u.seat → R (u.invoke cb).2.seat := by
    intro u cb hu
    rw [invoke_snd]
    exact hcall hu
  cases hm with
  | start => exact hi _ _ h
  | reject => exact hreply _ (hmark h)
  | fields headers hr hs => exact forwardFields_keeps (P := fun u => R u.seat) (fun f u => hi u _) h
  | headersEnd => exact hi _ _ h
  | @body data last b hr hs hb =>
    unfold announceChunk
    split
    · exact hfill h hb
    · exact hi _ _ (hfill h hb)
  | finish => exact hi _ _ (hmark h)

/-- Nothing moves a stream that has refused its request. -/
theorem move_accepted {s t : Stream ε} (h : Move s t) : s.rejected = false := by
  cases h <;> assumption

theorem unlessRejected_moves {s : Stream ε} {next : Stream ε → Outcome StreamError (Stream ε)}
    (h : s.rejected = false → Moves s (next s).2) : Moves s (s.unlessRejected next).2 := by
  unfold unlessRejected
  split
  · exact .refl
  · next hr => exact h (Bool.eq_false_iff.mpr hr)

theorem opening_moves {s : Stream ε} (headers : Headers) (hr : s.rejected = false)
    (hs : s.state = .initial) (hne : headers.isEmpty = false) :
    Moves s ({ s with metadata := some headers }.enter .requestLine).run.2 := by
  cases hl : RequestLine.ofHeaders headers with
  | error e =>
    rw [run_incomplete s hl]
    exact .single (.reject hr hs hne hl)
  | ok line =>
    rw [run_complete s hl]
    have hm := Move.start hr hs hne hl
    apply Outcome.andThen_cases (P := fun r => Moves s r.2)
    · intro _ _
      exact .single hm
    · intro _
      have hf := Move.fields headers
        (s := ((s.opening headers).invoke (.start line.method line.target line.version)).2)
        (by simpa [opening] using hr) (.inl (by simp [opening]))
      exact .tail (.single hm) (by simpa [opening, invoke] using hf)

theorem onMetadata_moves (headers : Headers) (s : Stream ε) : Moves s (s.onMetadata headers).2 := by
  apply unlessRejected_moves
  intro hr
  split
  · next hs =>
    split
    · exact .refl
    · next hne => exact opening_moves headers hr hs (Bool.eq_false_iff.mpr hne)
  · next hs =>
    rw [run_enter (by decide)]
    exact .single (.fields headers hr (.inl hs))
  · next hs =>
    rw [run_enter (by decide)]
    exact .single (.fields headers hr (.inr hs))
  · exact .refl

theorem onMetadata_first {s : Stream ε} (hr : s.rejected = false) (hs : s.state = .initial) {headers : Headers}
    (hne : headers.isEmpty = false) :
    s.onMetadata headers = ({ s with metadata := some headers }.enter .requestLine).run := by
  simp [onMetadata, unlessRejected, hr, hs, hne]

theorem onMetadata_open {s : Stream ε} (hr : s.rejected = false)
    (hs : s.state = .requestLine ∨ s.state = .headerFields) (headers : Headers) :
    s.onMetadata headers = ({ s with metadata := some headers }.reach .headerFields).forwardFields := by
  rcases hs with hs | hs <;> simp [onMetadata, unlessRejected, hr, hs, run_enter, act]

theorem onMetadata_past {s : Stream ε} (hr : s.rejected = false) (hs : s.state.canBlock = true)
    (headers : Headers) : s.onMetadata headers = s.refuse .metadataAfterHeaders := by
  cases hc : s.state <;> simp [hc, Lifecycle.canBlock] at hs <;> simp [onMetadata, unlessRejected, hr, hc]

theorem onHeadersEnd_open {s : Stream ε} (hr : s.rejected = false)
    (hs : s.state = .requestLine ∨ s.state = .headerFields) :
    s.onHeadersEnd = (s.reach .headersComplete).invoke .headersComplete := by
  rcases hs with hs | hs <;> simp [onHeadersEnd, unlessRejected, hr, hs, run_enter, act]

theorem onHeadersEnd_past {s : Stream ε}
    (hs : s.state = .headersComplete ∨ s.state = .body ∨ s.state = .final) :
    s.onHeadersEnd = (.ok (), s) := by
  rcases hs with hs | hs | hs <;> simp [onHeadersEnd, unlessRejected, hs]

theorem onHeadersEnd_moves (s : Stream ε) : Moves s s.onHeadersEnd.2 := by
  apply unlessRejected_moves
  intro hr
  split
  · exact .refl
  · next hs =>
    rw [run_enter (by decide)]
    exact .single (.headersEnd hr (.inl hs))
  · next hs =>
    rw [run_enter (by decide)]
    exact .single (.headersEnd hr (.inr hs))
  · exact .refl

theorem takeBody_moves (data : Octets) (last : Bool) (s : Stream ε) (hr : s.rejected = false) :
    Moves s (takeBody data last s).2 := by
  unfold takeBody
  split
  · next hs =>
    split
    · next hb =>
      rw [run_enter (by decide)]
      exact .single (.body hr hs hb)
    · exact .refl
  · exact .refl

theorem onBody_moves (data : Octets) (last : Bool) (s : Stream ε) : Moves s (s.onBody data last).2 := by
  apply unlessRejected_moves
  intro _
  exact Outcome.andThen_keeps (onHeadersEnd_moves s)
    fun t ht => ht.trans (unlessRejected_moves (takeBody_moves data last t))

/-- Past the request line the header section can be ended, and then the stream reads. -/
theorem onHeadersEnd_reading {s : Stream ε} (hr : s.rejected = false) (hi : s.state ≠ .initial)
    (hf : s.state ≠ .final) : s.onHeadersEnd.2.state.isReading = true := by
  cases hs : s.state with
  | initial => exact absurd hs hi
  | requestLine => simp [onHeadersEnd_open hr (.inl hs), Lifecycle.isReading]
  | headerFields => simp [onHeadersEnd_open hr (.inr hs), Lifecycle.isReading]
  | headersComplete => simp [onHeadersEnd_past (.inl hs), hs, Lifecycle.isReading]
  | body => simp [onHeadersEnd_past (.inr (.inl hs)), hs, Lifecycle.isReading]
  | final => exact absurd hs hf

theorem onHeadersEnd_again {s : Stream ε} (hs : s.state.isReading = true) :
    s.onHeadersEnd = (.ok (), s) := by
  apply onHeadersEnd_past
  cases hc : s.state <;> simp [hc, Lifecycle.isReading] at hs ⊢

/-- Where ending the header section succeeds, there was nothing to do or the engine was told. -/
theorem onHeadersEnd_ok {s t : Stream ε} (he : s.onHeadersEnd = (.ok (), t)) :
    t = s ∨ (s.state = .requestLine ∨ s.state = .headerFields) ∧
      t = ((s.reach .headersComplete).invoke .headersComplete).2 := by
  by_cases hr : s.rejected = true
  · have hsame : s.onHeadersEnd = (.ok (), s) := by simp [onHeadersEnd, unlessRejected, hr]
    exact .inl (congrArg Prod.snd (he.symm.trans hsame))
  have hopen : s.state = .requestLine ∨ s.state = .headerFields →
      t = ((s.reach .headersComplete).invoke .headersComplete).2 :=
    fun hi => congrArg Prod.snd (he.symm.trans (onHeadersEnd_open (Bool.eq_false_iff.mpr hr) hi))
  have hpast : s.state = .headersComplete ∨ s.state = .body ∨ s.state = .final → t = s :=
    fun hi => congrArg Prod.snd (he.symm.trans (onHeadersEnd_past hi))
  cases hi : s.state with
  | initial => simp [onHeadersEnd, unlessRejected, hr, hi, refuse] at he
  | requestLine => exact .inr ⟨.inl rfl, hopen (.inl hi)⟩
  | headerFields => exact .inr ⟨.inr rfl, hopen (.inr hi)⟩
  | headersComplete => exact .inl (hpast (.inl hi))
  | body => exact .inl (hpast (.inr (.inl hi)))
  | final => exact .inl (hpast (.inr (.inr hi)))

/-- A body frame that is taken enters the body stage. -/
theorem onBody_reading {s : Stream ε} (hr : s.rejected = false) (hs : s.state.isReading = true)
    {data : Octets} {last : Bool} {b : Content.Buffer} (hb : s.buffer.fill data last = .ok b) :
    s.onBody data last = ((s.withBuffer b).reach .body).announceChunk := by
  simp only [onBody, unlessRejected, hr, onHeadersEnd_again hs, Outcome.andThen_ok, takeBody, hs, hb,
    if_true, Bool.false_eq_true, if_false]
  exact run_enter (by decide) _

theorem onEnd_reading {s : Stream ε} (hr : s.rejected = false) (hs : s.state.isReading = true) :
    s.onEnd = ((s.withBuffer s.buffer.markComplete).reach .final).invoke (.complete 0) := by
  have he : takeEnd s = ((s.withBuffer s.buffer.markComplete).reach .final).invoke (.complete 0) :=
    run_enter (by decide) _
  cases hc : s.state <;> simp [hc, Lifecycle.isReading] at hs <;>
    simp [onEnd, unlessRejected, hr, hc, onHeadersEnd_past, he]

/-- A body frame that finds the header section open ends it first. -/
theorem onBody_open {s t : Stream ε} (hr : s.rejected = false) (he : s.onHeadersEnd = (.ok (), t))
    (ht : t.state.isReading = true) (data : Octets) (last : Bool) :
    s.onBody data last = t.onBody data last := by
  unfold onBody
  rw [unlessRejected, if_neg (by simp [hr]), he, Outcome.andThen_ok]
  simp only [unlessRejected, onHeadersEnd_again ht, Outcome.andThen_ok]
  split <;> rfl

theorem onEnd_open {s t : Stream ε} (hr : s.rejected = false) (hs : s.state = .headerFields)
    (he : s.onHeadersEnd = (.ok (), t)) (hr' : t.rejected = false) (ht : t.state.isReading = true) :
    s.onEnd = t.onEnd := by
  have hs' : s.onEnd = t.unlessRejected takeEnd := by
    simp [onEnd, unlessRejected, hr, hs, he]
  rw [hs', onEnd_reading hr' ht, unlessRejected, if_neg (by simp [hr'])]
  exact run_enter (by decide) _

theorem onEnd_moves (s : Stream ε) : Moves s s.onEnd.2 := by
  apply unlessRejected_moves
  intro hr
  split
  · exact .refl
  · exact .refl
  · exact .refl
  · next hf hi _ =>
    have hread := onHeadersEnd_reading hr hi hf
    apply Outcome.andThen_cases (P := fun r => Moves s r.2)
    · intro _ _
      exact onHeadersEnd_moves s
    · intro _
      apply (onHeadersEnd_moves s).trans
      apply unlessRejected_moves
      intro ht
      rw [takeEnd, run_enter (by decide)]
      exact .single (.finish ht hread)

/-- A rejected stream takes every frame and stays as it is. -/
theorem receive_rejected {s : Stream ε} (h : s.rejected = true) (frame : InFrame) :
    s.receive frame = (.ok (), s) := by
  cases frame <;> simp [receive, onMetadata, onHeadersEnd, onBody, onEnd, unlessRejected, h]

/-- A frame is taken in moves. -/
theorem receive_moves (frame : InFrame) (s : Stream ε) : Moves s (s.receive frame).2 := by
  cases frame with
  | metadata headers => exact onMetadata_moves headers s
  | headersEnd => exact onHeadersEnd_moves s
  | body data last => exact onBody_moves data last s
  | streamEnd => exact onEnd_moves s

end Stream

end FramedHttp
