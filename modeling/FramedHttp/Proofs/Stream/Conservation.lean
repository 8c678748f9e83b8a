import FramedHttp.Proofs.Stream.Meter
import FramedHttp.Proofs.Stream.Run

/-!
# Conservation of body octets

Octets enter the channel of a stream with the body frames that it accepts, and leave it with what is
released, to a reader or to the engine. Until the body is given up, what was accepted is what was released
and what is still unread, in this order.
-/

set_option autoImplicit false

namespace FramedHttp

open Content

namespace Content.Buffer

/-- What is left after some octets in front were released. -/
def Released (b c : Buffer) : Prop :=
  ∃ n, b.release? n = some c

variable {b c : Buffer}

theorem released_consume {n : Nat} (h : n ≤ b.fragment.length) : Released b (b.consume n) :=
  ⟨n, release?_eq_some_iff.mpr ⟨h, rfl⟩⟩

theorem released_complete (h : Released b c) : c.complete = b.complete := by
  obtain ⟨n, h⟩ := h
  obtain ⟨_, rfl⟩ := release?_eq_some_iff.mp h
  rfl

theorem released_discarding (h : Released b c) : c.discarding = b.discarding := by
  obtain ⟨n, h⟩ := h
  obtain ⟨_, rfl⟩ := release?_eq_some_iff.mp h
  rfl

theorem released_nil (h : Released b c) (hb : b.fragment = []) : c.fragment = [] := by
  obtain ⟨n, h⟩ := h
  obtain ⟨_, rfl⟩ := release?_eq_some_iff.mp h
  simp [hb]

/-- What is gone and what is left make up the fragment. -/
theorem gone_append (h : Released b c) : Metered.gone b c ++ c.fragment = b.fragment := by
  obtain ⟨n, h⟩ := h
  obtain ⟨hn, rfl⟩ := release?_eq_some_iff.mp h
  have hl : b.fragment.length - (b.fragment.length - n) = n := by omega
  simp [Metered.gone, hl]

end Content.Buffer

open Content.Buffer

/-- The engine touches the unread body only by consuming octets from its front. -/
def Engine.Consumes (ε : Type) [Engine ε] : Prop :=
  ∀ (cb : Callback) (occasion : Occasion) (s : Seat ε), Released s.buffer (Engine.call cb occasion s).2.buffer

/-- The engine adds nothing to a body of which nothing is unread. -/
def Engine.LeavesEmpty (ε : Type) [Engine ε] : Prop :=
  ∀ (cb : Callback) (occasion : Occasion) (s : Seat ε), s.buffer.fragment = [] →
    (Engine.call cb occasion s).2.buffer.fragment = []

theorem Engine.leaves_empty_of_consumes {ε : Type} [Engine ε] (h : Engine.Consumes ε) : Engine.LeavesEmpty ε :=
  fun cb occasion s => released_nil (h cb occasion s)

theorem Recorder.consumes_only : Engine.Consumes Recorder := by
  intro cb occasion s
  have hl : Released s.buffer (s.engine.leave cb s.buffer) := by
    unfold leave
    split
    · next octets =>
      split
      · have hm : s.buffer.consume octets.length = s.buffer.consume (min octets.length s.buffer.fragment.length) := by
          simp [consume, List.drop_eq_drop_iff]
        rw [hm]
        exact released_consume (Nat.min_le_right _ _)
      · exact released_consume (Nat.zero_le _)
    · exact released_consume (Nat.zero_le _)
  simp only [Engine.call, call]
  split <;> exact hl

namespace Stream

variable {ε : Type} [Engine ε]

/-- The stream as a body frame finds it when it reaches the channel, if it gets there. -/
def atChannel (s : Stream ε) : Option (Stream ε) :=
  if s.rejected then none
  else
    match s.onHeadersEnd with
    | (.ok _, t) => if !t.rejected && t.state.isReading then some t else none
    | (.error _, _) => none

/-- The channel refused a body frame, since octets are still unread. -/
def Overlaps (r : Outcome StreamError (Stream ε)) : Prop :=
  ∃ state, r.1 = .error (.illegalState .bodyFrameOnUnread state)

/-- The octets that the channel accepts. -/
def accepted (c : StreamCall) (s : Stream ε) : Octets :=
  match c with
  | .receive (.body data last) =>
    match s.atChannel with
    | none => []
    | some t =>
      match t.buffer.fill data last with
      | .ok _ => data
      | .error _ => []
  | _ => []

/-- The octets that are released, to a reader or to the engine during its callbacks. -/
def released (c : StreamCall) (s : Stream ε) : Octets :=
  match c with
  | .receive frame => (s.metered.receive frame).2.engine.consumed
  | .dispatch => s.metered.dispatch.2.engine.consumed
  | .release n =>
    match s.release n with
    | (.ok _, _) => s.buffer.fragment.take n
    | (.error _, _) => []
  | _ => []

section Channel

variable {s t : Stream ε} {data : Octets} {last : Bool}

theorem atChannel_eq_some_iff : s.atChannel = some t ↔
    s.rejected = false ∧ s.onHeadersEnd = (.ok (), t) ∧ t.rejected = false ∧ t.state.isReading = true := by
  unfold atChannel
  by_cases hr : s.rejected = true
  · simp [hr]
  · rcases s.onHeadersEnd with ⟨_ | _, u⟩
    · simp
    · by_cases hu : u.rejected = false ∧ u.state.isReading = true
      · simp [hr, hu]
        rintro rfl
        exact hu
      · have hc : ¬ (!u.rejected && u.state.isReading) = true := by simpa using hu
        simp [hr, hc]
        rintro rfl
        simpa using hu

theorem onBody_channel (h : s.atChannel = some t) (data : Octets) (last : Bool) :
    s.onBody data last =
      match t.buffer.fill data last with
      | .ok b => ((t.withBuffer b).reach .body).announceChunk
      | .error _ => t.refuse .bodyFrameOnUnread := by
  obtain ⟨hr, he, ht, hread⟩ := atChannel_eq_some_iff.mp h
  have hb : s.onBody data last = takeBody data last t := by
    rw [onBody, unlessRejected, if_neg (by simp [hr]), he, Outcome.andThen_ok, unlessRejected,
      if_neg (by simp [ht])]
  rw [hb, takeBody, if_pos hread]
  cases t.buffer.fill data last with
  | error => rfl
  | ok b => exact run_enter (by decide : Lifecycle.body ≠ .requestLine) (t.withBuffer b)

/-- A frame that does not get to the channel does no more than end the header section. -/
theorem onBody_apart (h : s.atChannel = none) (data : Octets) (last : Bool) :
    (s.onBody data last).2 = s.onHeadersEnd.2 := by
  unfold atChannel at h
  split at h
  · next hr => simp [onBody, onHeadersEnd, unlessRejected, hr]
  · next hr =>
    rw [onBody, unlessRejected, if_neg hr]
    split at h
    · next u he =>
      split at h
      · cases h
      · next hu =>
        rw [he, Outcome.andThen_ok, unlessRejected]
        split
        · rfl
        · next hv =>
          have hread : ¬ u.state.isReading = true := by
            intro hread
            exact hu (by simp [hread, hv])
          rw [takeBody, if_neg hread]
          rfl
    · next he => rw [he, Outcome.andThen_error]

theorem plain_atChannel (s : Stream (Metered ε)) : s.atChannel.map plain = s.plain.atChannel := by
  unfold atChannel
  rw [plain_rejected, ← plain_onHeadersEnd]
  split
  · rfl
  · rcases s.onHeadersEnd with ⟨_ | _, t⟩
    · rfl
    · change Option.map plain (if !t.rejected && t.state.isReading then some t else none) =
        if !t.rejected && t.state.isReading then some t.plain else none
      split <;> rfl

end Channel

section Buffers

variable (hε : Engine.Consumes ε)
include hε

theorem invoke_released (cb : Callback) (s : Stream ε) : Released s.buffer (s.invoke cb).2.buffer := by
  have hr := hε cb { state := s.state, earlier := s.callbacks } s.seat
  simpa [invoke, buffer] using hr

theorem announceChunk_released (s : Stream ε) : Released s.buffer s.announceChunk.2.buffer := by
  unfold announceChunk
  split
  · exact released_consume (Nat.zero_le _)
  · exact invoke_released hε _ s

omit hε in
theorem settled_kept : Kept fun s : Stream ε => s.pending = false where
  settled h := h
  move _ hm := move_pending hm
  release h _ _ _ := h
  discard h := h
  pull h := h
  terminate h := h

/-- What releasing, filling and marking keep of a buffer, a move keeps. -/
theorem buffer_move {R : Buffer → Prop} (hrelease : ∀ {b c}, R b → Released b c → R c)
    (hfill : ∀ {b c data last}, R b → b.fill data last = .ok c → R c) (hmark : ∀ {b}, R b → R b.markComplete)
    {s t : Stream ε} (h : R s.buffer) (hm : Move s t) : R t.buffer :=
  move_seat (R := fun seat => R seat.buffer) (fun {cb occasion seat} hs => hrelease hs (hε cb occasion seat))
    hfill hmark (fun _ hs => hs) h hm

/-- What every operation on a buffer keeps, a stream keeps of its buffer. -/
theorem buffer_kept {R : Buffer → Prop} (hrelease : ∀ {b c}, R b → Released b c → R c)
    (hfill : ∀ {b c data last}, R b → b.fill data last = .ok c → R c) (hmark : ∀ {b}, R b → R b.markComplete)
    (hdiscard : ∀ {b}, R b → R b.discard) : Kept fun s : Stream ε => s.pending = false ∧ R s.buffer where
  settled h := h.1
  move h hm := ⟨move_pending hm, buffer_move hε hrelease hfill hmark h.2 hm⟩
  release h _ _ hb := ⟨h.1, hrelease h.2 ⟨_, hb⟩⟩
  discard h := ⟨h.1, hdiscard h.2⟩
  pull h := h
  terminate h := h

/-- An end mark stays. -/
theorem complete_kept : Kept fun s : Stream ε => s.pending = false ∧ s.buffer.complete = true := by
  apply buffer_kept (R := fun b => b.complete = true) hε
  · intro b c hb hc
    exact (released_complete hc).trans hb
  · intro b c data last hb hc
    obtain ⟨_, rfl⟩ := fill_ok_iff.mp hc
    simp [hb]
  · intro b _
    rfl
  · intro b hb
    exact hb

/-- Nobody takes a body back that was given up. -/
theorem discarding_kept : Kept fun s : Stream ε => s.pending = false ∧ s.buffer.discarding = true := by
  apply buffer_kept (R := fun b => b.discarding = true) hε
  · intro b c hb hc
    exact (released_discarding hc).trans hb
  · intro b c data last hb hc
    obtain ⟨_, rfl⟩ := fill_ok_iff.mp hc
    exact hb
  · intro b hb
    exact hb
  · intro b _
    rfl

theorem reading_moves {s t : Stream ε} (hd : s.buffer.discarding = false) (h : Moves s t) :
    t.buffer.discarding = false := by
  induction h with
  | refl => exact hd
  | tail _ hm ih =>
    apply buffer_move (R := fun b => b.discarding = false) hε _ _ _ ih hm
    · intro b c hb hc
      exact (released_discarding hc).trans hb
    · intro b c data last hb hc
      obtain ⟨_, rfl⟩ := fill_ok_iff.mp hc
      exact hb
    · intro b hb
      exact hb

theorem reading_call {c : StreamCall} (hc : c ≠ .discard) {s : Stream ε} (hs : s.pending = false)
    (hd : s.buffer.discarding = false) : (s.call c).2.buffer.discarding = false := by
  cases c with
  | receive frame => exact reading_moves hε hd (receive_moves frame s)
  | dispatch =>
    simp only [call, dispatch_settled s hs]
    exact hd
  | release n =>
    simp only [call, release]
    split
    · next b hb => exact (released_discarding ⟨n, hb⟩).trans hd
    · exact hd
  | discard => exact absurd rfl hc
  | pull => exact hd
  | terminate => exact hd

/-- A body is given up by nothing else than the call that does so. -/
theorem reading_replay {calls : List StreamCall} (hc : .discard ∉ calls) {s : Stream ε} (hs : s.pending = false)
    (hd : s.buffer.discarding = false) : (s.replay calls).buffer.discarding = false := by
  induction calls generalizing s with
  | nil => exact hd
  | cons c calls ih =>
    obtain ⟨hne, hrest⟩ := not_or.mp (mt List.mem_cons.mpr hc)
    exact ih hrest (settled_kept.call hs c) (reading_call hε (Ne.symm hne) hs hd)

omit hε in
/-- What a callback, a reader and giving the body up keep of a buffer holds while the header section is open. -/
theorem early_kept {R : Buffer → Prop}
    (hcall : ∀ (cb : Callback) (occasion : Occasion) (s : Seat ε), R s.buffer → R (Engine.call cb occasion s).2.buffer)
    (hrelease : ∀ {b c}, R b → Released b c → R c) (hdiscard : ∀ {b}, R b → R b.discard) :
    Kept fun s : Stream ε => s.pending = false ∧ (s.state.canBlock = true ∨ R s.buffer) where
  settled h := h.1
  move {s t} h hm := by
    have hi : ∀ (u : Stream ε) (cb : Callback), R u.buffer → R (u.invoke cb).2.buffer := by
      intro u cb hu
      rw [invoke_snd]
      exact hcall _ _ _ hu
    apply And.intro (move_pending hm)
    cases hm with
    | @start headers line hr hs =>
      have hb : R s.buffer := h.2.resolve_left (by simp [hs, Lifecycle.canBlock])
      exact .inr (hi _ _ hb)
    | reject => exact .inl rfl
    | fields headers hr hs =>
      have hb : R s.buffer := h.2.resolve_left (by rcases hs with hs | hs <;> simp [hs, Lifecycle.canBlock])
      exact .inr (forwardFields_keeps (P := fun u => R u.buffer) (fun f u => hi u _) hb)
    | headersEnd => exact .inl (by simp [Lifecycle.canBlock])
    | body => exact .inl (by simp [announceChunk_state, Lifecycle.canBlock])
    | finish => exact .inl (by simp [Lifecycle.canBlock])
  release h n b hb := ⟨h.1, h.2.imp id fun hR => hrelease hR ⟨n, hb⟩⟩
  discard h := ⟨h.1, h.2.imp id hdiscard⟩
  pull h := h
  terminate h := h

/-- Nothing is unread before the header section has ended. -/
def Timely (s : Stream ε) : Prop :=
  s.pending = false ∧ (s.state.canBlock = true ∨ s.buffer.fragment = [])

omit hε in
/-- With an engine that adds nothing to the body. -/
theorem empty_timely (hempty : Engine.LeavesEmpty ε) : Kept (Timely (ε := ε)) :=
  early_kept (R := fun b => b.fragment = []) hempty (fun hb hc => released_nil hc hb) fun _ => rfl

theorem timely_kept : Kept (Timely (ε := ε)) :=
  empty_timely (Engine.leaves_empty_of_consumes hε)

end Buffers

section Account

variable (hε : Engine.Consumes ε)

/-- What was in the buffer of a metered stream: the octets gone and the octets unread. -/
def account (s : Stream (Metered ε)) : Octets :=
  s.engine.consumed ++ s.buffer.fragment

variable {s t : Stream (Metered ε)}

include hε

/-- Metering does not change how the body is consumed. -/
theorem metered_consumes : Engine.Consumes (Metered ε) := by
  intro cb occasion s
  exact hε cb occasion (Metered.plainSeat s)

theorem account_invoke (cb : Callback) (s : Stream (Metered ε)) : (s.invoke cb).2.account = s.account := by
  have hg := gone_append (hε cb { state := s.state, earlier := s.callbacks } (Metered.plainSeat s.seat))
  simp only [account, invoke, Outcome.mapError_snd, Outcome.mapState_snd, engine, buffer, Engine.call,
    Metered.after, List.append_assoc]
  exact congrArg _ hg

theorem account_fields (s : Stream (Metered ε)) : s.forwardFields.2.account = s.account := by
  apply forwardFields_keeps (P := fun t : Stream (Metered ε) => t.account = s.account)
  · intro f t ht
    exact (account_invoke hε _ t).trans ht
  · rfl

theorem account_onMetadata (headers : Headers) (s : Stream (Metered ε)) :
    (s.onMetadata headers).2.account = s.account := by
  apply unlessRejected_keeps (P := fun t : Stream (Metered ε) => t.account = s.account) rfl
  split
  · split
    · rfl
    · cases hl : RequestLine.ofHeaders headers with
      | error e =>
        rw [run_incomplete s hl]
        rfl
      | ok line =>
        rw [run_complete s hl]
        have hs := account_invoke hε (.start line.method line.target line.version) (s.opening headers)
        apply Outcome.andThen_keeps (P := fun t : Stream (Metered ε) => t.account = s.account) hs
        intro t ht
        exact (account_fields hε (t.reach .headerFields)).trans ht
  · rw [run_enter (by decide)]
    exact account_fields hε _
  · rw [run_enter (by decide)]
    exact account_fields hε _
  · rfl

theorem account_onHeadersEnd (s : Stream (Metered ε)) : s.onHeadersEnd.2.account = s.account := by
  apply unlessRejected_keeps (P := fun t : Stream (Metered ε) => t.account = s.account) rfl
  split
  · rfl
  · rw [run_enter (by decide)]
    exact account_invoke hε _ _
  · rw [run_enter (by decide)]
    exact account_invoke hε _ _
  · rfl

theorem account_onEnd (s : Stream (Metered ε)) : s.onEnd.2.account = s.account := by
  apply unlessRejected_keeps (P := fun t : Stream (Metered ε) => t.account = s.account) rfl
  split
  · rfl
  · rfl
  · rfl
  · apply Outcome.andThen_keeps (P := fun t : Stream (Metered ε) => t.account = s.account) (account_onHeadersEnd hε s)
    intro t ht
    apply unlessRejected_keeps (P := fun u : Stream (Metered ε) => u.account = s.account) ht
    rw [takeEnd, run_enter (by decide)]
    exact (account_invoke hε _ _).trans ht

theorem account_announceChunk (s : Stream (Metered ε)) : s.announceChunk.2.account = s.account := by
  unfold announceChunk
  split
  · rfl
  · exact account_invoke hε _ s

omit [Engine ε] hε in
theorem account_fill {data : Octets} {last : Bool} {b : Buffer} (h : s.buffer.fill data last = .ok b)
    (hd : b.discarding = false) : ((s.withBuffer b).reach .body).account = s.account ++ data := by
  obtain ⟨hn, rfl⟩ := fill_ok_iff.mp h
  have hd : ¬ s.buffer.discarding = true := Bool.eq_false_iff.mp hd
  change s.engine.consumed ++ (if s.buffer.discarding then [] else data) = s.account ++ data
  rw [if_neg hd, account, hn, List.append_nil]

/-- A body frame that gets to the channel adds its octets to the account, unless it is refused. -/
theorem account_onBody (h : s.atChannel = some t) {data : Octets} {last : Bool}
    (hd : (s.onBody data last).2.buffer.discarding = false) :
    (s.onBody data last).2.account = s.account ++ s.accepted (.receive (.body data last)) := by
  obtain ⟨_, he, _⟩ := atChannel_eq_some_iff.mp h
  have ht : t.account = s.account := by
    have ha := account_onHeadersEnd hε s
    rwa [he] at ha
  rw [onBody_channel h] at hd ⊢
  cases hf : t.buffer.fill data last with
  | error =>
    simp only [accepted, h, hf, List.append_nil]
    exact ht
  | ok b =>
    rw [hf] at hd
    have hr := announceChunk_released (metered_consumes hε) ((t.withBuffer b).reach .body)
    have hb : b.discarding = false := (released_discarding hr).symm.trans hd
    simp only [accepted, h, hf]
    rw [account_announceChunk hε, account_fill hf hb, ht]

/-- A frame adds to the account what the channel accepts of it. -/
theorem account_receive (frame : InFrame) (hd : (s.receive frame).2.buffer.discarding = false) :
    (s.receive frame).2.account = s.account ++ s.accepted (.receive frame) := by
  cases frame with
  | metadata headers => simp [receive, account_onMetadata hε, accepted]
  | headersEnd => simp [receive, account_onHeadersEnd hε, accepted]
  | streamEnd => simp [receive, account_onEnd hε, accepted]
  | body data last =>
    cases h : s.atChannel with
    | none => simp only [receive, onBody_apart h, account_onHeadersEnd hε, accepted, h, List.append_nil]
    | some t => exact account_onBody hε h hd

end Account

section Balance

variable (hε : Engine.Consumes ε) {s t : Stream ε}

theorem accepted_metered (c : StreamCall) (s : Stream ε) : s.metered.accepted c = s.accepted c := by
  have hc : s.metered.atChannel.map plain = s.atChannel := by rw [plain_atChannel, plain_metered]
  unfold accepted
  split
  · rw [← hc]
    cases s.metered.atChannel <;> rfl
  · rfl

include hε

/-- What one call releases and what it leaves unread is what was unread and what it brings. -/
theorem balance_call (hs : s.pending = false) (c : StreamCall) (hd : (s.call c).2.buffer.discarding = false) :
    s.released c ++ (s.call c).2.buffer.fragment = s.buffer.fragment ++ s.accepted c := by
  cases c with
  | receive frame =>
    have hp := congrArg Prod.snd (plain_receive s.metered frame)
    have hb : (s.metered.receive frame).2.buffer = (s.receive frame).2.buffer := congrArg buffer hp
    have ha := account_receive hε (s := s.metered) frame (hb ▸ hd)
    rw [accepted_metered] at ha
    simp only [released, call, ← hb]
    exact ha
  | dispatch =>
    have hm : s.metered.dispatch = (.ok (), s.metered) := dispatch_settled _ hs
    simp only [released, call, accepted, hm, dispatch_settled s hs, List.append_nil]
    rfl
  | release n =>
    simp only [released, call, accepted, release]
    cases hr : s.buffer.release? n with
    | none => simp [refuse]
    | some b =>
      obtain ⟨hn, rfl⟩ := release?_eq_some_iff.mp hr
      simp
  | discard => cases hd
  | pull => simp [released, call, accepted, withLink, buffer]
  | terminate => simp [released, call, accepted, withLink, buffer]

/-- Over a whole script. -/
theorem balance_replay (hs : s.pending = false) (calls : List StreamCall)
    (hd : (s.replay calls).buffer.discarding = false) :
    s.record released calls ++ (s.replay calls).buffer.fragment = s.buffer.fragment ++ s.record accepted calls := by
  induction calls generalizing s with
  | nil => simp [record, replay]
  | cons c calls ih =>
    have ht : (s.call c).2.pending = false := settled_kept.call hs c
    have hk : (s.call c).2.buffer.discarding = false := by
      apply Bool.eq_false_iff.mpr
      intro hk
      have hr := (discarding_kept hε).replay ⟨ht, hk⟩ calls
      exact absurd (hd.symm.trans hr.2) (by decide)
    rw [record, record, List.append_assoc, replay, ih ht hd, ← List.append_assoc, balance_call hε hs c hk,
      List.append_assoc]

/-- A frame gets to the channel of a stream that reads as it is, or of one where nothing is unread. -/
theorem channel_cases (hs : Timely s) (h : s.atChannel = some t) :
    t = s ∨ s.buffer.fragment = [] ∧ t.buffer.fragment = [] := by
  obtain ⟨_, he, _⟩ := atChannel_eq_some_iff.mp h
  rcases onHeadersEnd_ok he with rfl | ⟨hi, rfl⟩
  · exact .inl rfl
  · have hb : s.buffer.fragment = [] :=
      hs.2.resolve_left (by rcases hi with hi | hi <;> simp [hi, Lifecycle.canBlock])
    exact .inr ⟨hb, released_nil (invoke_released hε _ (s.reach .headersComplete)) hb⟩

/-- A body frame that reaches the channel is refused exactly when octets are unread. -/
theorem overlaps_iff (hs : Timely s) (h : s.atChannel = some t) (data : Octets) (last : Bool) :
    Overlaps (s.onBody data last) ↔ s.buffer.fragment ≠ [] := by
  have ht : t.buffer.fragment = [] ↔ s.buffer.fragment = [] := by
    rcases channel_cases hε hs h with rfl | ⟨hb, ht⟩
    · exact Iff.rfl
    · simp [hb, ht]
  rw [onBody_channel h, Ne, ← ht, Overlaps]
  cases hf : t.buffer.fill data last with
  | error n =>
    have hn : t.buffer.fragment ≠ [] := fill_error_iff.mp ⟨n, hf⟩
    exact ⟨fun _ => hn, fun _ => ⟨t.state, rfl⟩⟩
  | ok b =>
    constructor
    · rintro ⟨state, he⟩
      obtain ⟨_, hc⟩ := announceChunk_engine_only _ _ he
      cases hc
    · intro hn
      exact absurd (fill_ok_iff.mp hf).1 hn

/-- A refused body frame leaves the stream as it is. -/
theorem overlaps_same (hs : Timely s) (h : s.atChannel = some t) {data : Octets} {last : Bool}
    (ho : Overlaps (s.onBody data last)) : (s.onBody data last).2 = s := by
  have hn := (overlaps_iff hε hs h data last).mp ho
  rcases channel_cases hε hs h with rfl | ⟨hb, _⟩
  · obtain ⟨n, hf⟩ := fill_error_iff.mpr hn
    rw [onBody_channel h, hf]
    rfl
  · exact absurd hb hn

end Balance

end Stream

open FramedHttp.Stream

namespace Session

variable {ε : Type} [Engine ε]

/-- Whatever is done to a stream by its peer and by readers of its body, the octets released so far and the
octets unread are the octets that its channel accepted, until the body is given up. A body frame that
reaches the channel is refused exactly when octets are unread. Neither a refused frame nor a refused
release changes anything, and the end mark stays. -/
theorem body_conserved (hε : Engine.Consumes ε) (settings : Settings) (link : Link) (engine : ε)
    (inbox : List InFrame) (pressure : Bool) (ops : List SessionOp) :
    let start : Session ε := { stream := .new settings link engine, inbox := inbox, pressure := pressure }
    let s := run ops start
    let calls := runCalls ops start
    s.stream = start.stream.replay calls ∧
    ((∀ op ∈ ops, op.discards = false) → s.buffer.discarding = false) ∧
    (s.buffer.discarding = false →
      start.stream.record released calls ++ s.buffer.fragment = start.stream.record accepted calls) ∧
    (∀ t, s.stream.atChannel = some t → ∀ data last,
      (Overlaps (s.stream.onBody data last) ↔ s.buffer.fragment ≠ []) ∧
      (Overlaps (s.stream.onBody data last) → (s.stream.onBody data last).2 = s.stream)) ∧
    (∀ n e, (s.consume n).1 = .error e → (s.consume n).2 = s) ∧
    (s.buffer.complete = true → ∀ more, (run more s).buffer.complete = true) := by
  intro start s calls
  have hs : Timely s.stream := run_keeps (timely_kept hε) ops ⟨rfl, .inr rfl⟩
  have hreplay : s.stream = start.stream.replay calls := run_replay ops start
  constructor
  · exact hreplay
  constructor
  · intro hops
    rw [buffer, hreplay]
    exact reading_replay hε (discard_runCalls hops start) rfl rfl
  constructor
  · intro hd
    have hb := balance_replay hε (s := start.stream) rfl calls (hreplay ▸ hd)
    rwa [← hreplay] at hb
  constructor
  · intro t h data last
    exact ⟨overlaps_iff hε hs h data last, overlaps_same hε hs h⟩
  constructor
  · intro n e he
    unfold consume at he ⊢
    split
    · next hb =>
      rw [hb] at he
      cases he
    · rfl
  · intro hc more
    exact (run_keeps (complete_kept hε) more (s := s) ⟨hs.1, hc⟩).2

/-- Two frames of a body, the first one read in two pieces, with a third frame refused in between. -/
theorem pieces_conserved :
    let first := Headers.ofPairs [("method", "POST"), ("url", "/a"), ("version", "HTTP/1.1")]
    let start : Session Recorder := { stream := .new {} {} {} }
    let ops : List SessionOp :=
      [.receive (.metadata first), .receive (.body [1, 2, 3] false), .consume 2, .receive (.body [9] false),
        .body (.seconds 1) (.read 5), .receive (.body [4] true)]
    let s := run ops start
    let calls := runCalls ops start
    Engine.Consumes Recorder ∧ (∀ op ∈ ops, op.discards = false) ∧ start.stream.record released calls = [1, 2, 3] ∧
      s.buffer.fragment = [4] ∧ start.stream.record accepted calls = [1, 2, 3, 4] ∧
      s.stream.atChannel.isSome = true ∧ s.buffer.complete = true ∧
      ∀ more, (run more s).buffer.complete = true := by
  intro first start ops s calls
  obtain ⟨_, hreading, hbalance, _, _, hkept⟩ := body_conserved Recorder.consumes_only {} {} {} [] true ops
  have hops : ∀ op ∈ ops, op.discards = false := by decide
  have hreleased : start.stream.record released calls = [1, 2, 3] := by decide +kernel
  have hunread : s.buffer.fragment = [4] := by decide +kernel
  have hchannel : s.stream.atChannel.isSome = true := by decide +kernel
  have hcomplete : s.buffer.complete = true := by decide +kernel
  have haccepted := hbalance (hreading hops)
  rw [hreleased, hunread] at haccepted
  exact ⟨Recorder.consumes_only, hops, hreleased, hunread, haccepted.symm, hchannel, hcomplete, hkept hcomplete⟩

end Session

end FramedHttp
