import FramedHttp.Stream.Basic

/-!
# Metered engines

What an engine consumes of a body during its callbacks shows in no answer. A metered engine is the engine
with a record of the octets that it consumed; without the record, its stream does what the stream of the
engine does.
-/

set_option autoImplicit false

namespace FramedHttp

variable {ε : Type}

structure Metered (ε : Type) where
  engine : ε
  consumed : Octets := []

namespace Metered

/-- The octets in front of a fragment that are gone afterwards. -/
def gone (before after : Content.Buffer) : Octets :=
  before.fragment.take (before.fragment.length - after.fragment.length)

def plainSeat (s : Seat (Metered ε)) : Seat ε :=
  { engine := s.engine.engine, buffer := s.buffer, link := s.link }

def after (s : Seat (Metered ε)) (t : Seat ε) : Seat (Metered ε) :=
  { engine := { engine := t.engine, consumed := s.engine.consumed ++ gone s.buffer t.buffer }
    buffer := t.buffer
    link := t.link }

instance [Engine ε] : Engine (Metered ε) where
  call cb occasion s := (Engine.call cb occasion (plainSeat s)).mapState (after s)

end Metered

namespace Stream

/-- The stream without the record. -/
def plain (s : Stream (Metered ε)) : Stream ε :=
  { translator := s.translator, replyVersion := s.replyVersion, state := s.state,
    metadata := s.metadata, pending := s.pending, rejected := s.rejected, callbacks := s.callbacks,
    seat := Metered.plainSeat s.seat }

/-- The stream with nothing on record. -/
def metered (s : Stream ε) : Stream (Metered ε) :=
  { translator := s.translator, replyVersion := s.replyVersion, state := s.state,
    metadata := s.metadata, pending := s.pending, rejected := s.rejected, callbacks := s.callbacks,
    seat := { engine := { engine := s.engine }, buffer := s.buffer, link := s.link } }

theorem plain_metered (s : Stream ε) : s.metered.plain = s := rfl

variable (s : Stream (Metered ε))

@[simp] theorem plain_state : s.plain.state = s.state := rfl

@[simp] theorem plain_metadata : s.plain.metadata = s.metadata := rfl

@[simp] theorem plain_rejected : s.plain.rejected = s.rejected := rfl

@[simp] theorem plain_callbacks : s.plain.callbacks = s.callbacks := rfl

@[simp] theorem plain_buffer : s.plain.buffer = s.buffer := rfl

theorem plain_unlessRejected {next : Stream (Metered ε) → Outcome StreamError (Stream (Metered ε))}
    {next' : Stream ε → Outcome StreamError (Stream ε)} (h : ∀ s, (next s).mapState plain = next' s.plain) :
    (s.unlessRejected next).mapState plain = s.plain.unlessRejected next' := by
  unfold unlessRejected
  rw [plain_rejected]
  split
  · rfl
  · exact h s

variable [Engine ε]

theorem plain_invoke (cb : Callback) : (s.invoke cb).mapState plain = s.plain.invoke cb := by
  have hp : s.plain.seat = Metered.plainSeat s.seat := rfl
  simp only [invoke, Engine.call, plain_state, plain_callbacks, hp]
  rcases Engine.call cb ⟨s.state, s.callbacks⟩ (Metered.plainSeat s.seat) with ⟨_ | _, t⟩ <;> rfl

theorem plain_invokeAll (cbs : List Callback) :
    (invokeAll cbs s).mapState plain = invokeAll cbs s.plain := by
  induction cbs generalizing s with
  | nil => rfl
  | cons cb rest ih =>
    simp only [invokeAll]
    rw [Outcome.mapState_andThen ih, plain_invoke]

theorem plain_startRequest : s.startRequest.mapState plain = s.plain.startRequest := by
  unfold startRequest
  rw [plain_metadata]
  cases s.metadata with
  | none => rfl
  | some headers =>
    dsimp only
    cases RequestLine.ofHeaders headers with
    | error e => rfl
    | ok line =>
      dsimp only
      rw [← plain_invoke]
      exact Outcome.mapState_andThen fun _ => rfl

theorem plain_forwardFields : s.forwardFields.mapState plain = s.plain.forwardFields := by
  unfold forwardFields
  rw [plain_metadata]
  cases s.metadata with
  | none => rfl
  | some headers => exact plain_invokeAll _ _

theorem plain_announceChunk : s.announceChunk.mapState plain = s.plain.announceChunk := by
  unfold announceChunk
  rw [plain_buffer]
  split
  · rfl
  · exact plain_invoke s _

theorem plain_act : s.act.mapState plain = s.plain.act := by
  unfold act
  rw [plain_state]
  cases s.state with
  | initial => rfl
  | requestLine => exact plain_startRequest s
  | headerFields => exact plain_forwardFields s
  | headersComplete => exact plain_invoke s _
  | body => exact plain_announceChunk s
  | final => exact plain_invoke s _

theorem plain_dispatchUpTo (n : Nat) : (dispatchUpTo n s).mapState plain = dispatchUpTo n s.plain := by
  induction n generalizing s with
  | zero => rfl
  | succ n ih =>
    unfold dispatchUpTo
    by_cases hp : s.pending = true
    · have hp' : s.plain.pending = true := hp
      rw [if_pos hp, if_pos hp', Outcome.mapState_andThen ih, plain_act]
      rfl
    · have hp' : ¬ s.plain.pending = true := hp
      rw [if_neg hp, if_neg hp']
      rfl

theorem plain_run : s.run.mapState plain = s.plain.run := by
  have h : s.dispatch.mapState plain = s.plain.dispatch := plain_dispatchUpTo s _
  unfold run
  rw [← h]
  rcases s.dispatch with ⟨e | _, t⟩
  · cases e <;> rfl
  · rfl

theorem plain_onHeadersEnd : s.onHeadersEnd.mapState plain = s.plain.onHeadersEnd := by
  apply plain_unlessRejected
  intro s
  rw [plain_state]
  cases s.state with
  | requestLine => exact plain_run _
  | headerFields => exact plain_run _
  | _ => rfl

theorem plain_takeBody (data : Octets) (last : Bool) :
    (takeBody data last s).mapState plain = takeBody data last s.plain := by
  unfold takeBody
  rw [plain_state, plain_buffer]
  split
  · cases s.buffer.fill data last with
    | error => rfl
    | ok b => exact plain_run _
  · rfl

theorem plain_onMetadata (headers : Headers) :
    (s.onMetadata headers).mapState plain = s.plain.onMetadata headers := by
  apply plain_unlessRejected
  intro s
  rw [plain_state]
  cases s.state with
  | initial =>
    dsimp only
    split
    · rfl
    · exact plain_run _
  | requestLine => exact plain_run _
  | headerFields => exact plain_run _
  | _ => rfl

/-- A call that first ends the header section. -/
theorem plain_afterHeaders {next : Stream (Metered ε) → Outcome StreamError (Stream (Metered ε))}
    {next' : Stream ε → Outcome StreamError (Stream ε)} (h : ∀ s, (next s).mapState plain = next' s.plain) :
    (s.onHeadersEnd.andThen fun s => s.unlessRejected next).mapState plain =
      s.plain.onHeadersEnd.andThen fun s => s.unlessRejected next' := by
  rw [← plain_onHeadersEnd]
  exact Outcome.mapState_andThen fun s => plain_unlessRejected s h

theorem plain_onBody (data : Octets) (last : Bool) :
    (s.onBody data last).mapState plain = s.plain.onBody data last := by
  apply plain_unlessRejected
  intro s
  exact plain_afterHeaders s fun s => plain_takeBody s data last

theorem plain_onEnd : s.onEnd.mapState plain = s.plain.onEnd := by
  have hn : ∀ s : Stream (Metered ε), (s.onHeadersEnd.andThen fun s => s.unlessRejected takeEnd).mapState plain =
      s.plain.onHeadersEnd.andThen fun s => s.unlessRejected takeEnd := by
    intro s
    exact plain_afterHeaders s fun s => plain_run _
  apply plain_unlessRejected
  intro s
  rw [plain_state]
  cases s.state with
  | headerFields => exact hn s
  | headersComplete => exact hn s
  | body => exact hn s
  | _ => rfl

/-- Metering an engine changes nothing about its stream. -/
theorem plain_receive (frame : InFrame) : (s.receive frame).mapState plain = s.plain.receive frame := by
  cases frame with
  | metadata headers => exact plain_onMetadata s headers
  | headersEnd => exact plain_onHeadersEnd s
  | body data last => exact plain_onBody s data last
  | streamEnd => exact plain_onEnd s

end Stream

end FramedHttp
