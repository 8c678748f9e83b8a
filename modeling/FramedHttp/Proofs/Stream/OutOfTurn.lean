import FramedHttp.Proofs.Stream.BlockingWait
import FramedHttp.Proofs.Stream.Refusal

/-!
# Calls out of turn

A call that the stream or its channel refuses because it comes out of turn leaves everything as it was. That
is not plain for frames that end the header section on their way: they would be refused too late if the
channel were not empty then, and it is, since nothing is unread before the header section has ended.
-/

set_option autoImplicit false

namespace FramedHttp

open Content

variable {ε : Type}

namespace Stream

/-- The call fails since it came out of turn. -/
def OutOfTurn (r : Outcome StreamError (Stream ε)) : Prop :=
  ∃ operation state, r.1 = .error (.illegalState operation state)

theorem not_out_of_turn_of_engine_only {r : Outcome StreamError (Stream ε)} (h : r.EngineOnly) : ¬ OutOfTurn r := by
  rintro ⟨operation, state, he⟩
  obtain ⟨_, hc⟩ := h _ he
  cases hc

theorem not_out_of_turn_ok (s : Stream ε) : ¬ OutOfTurn (.ok (), s) :=
  not_out_of_turn_of_engine_only (Outcome.engine_only_ok s)

theorem accepted_of_out_of_turn {s : Stream ε} {next : Stream ε → Outcome StreamError (Stream ε)}
    (h : OutOfTurn (s.unlessRejected next)) : s.rejected = false ∧ s.unlessRejected next = next s := by
  unfold unlessRejected at h ⊢
  by_cases hr : s.rejected = true
  · rw [if_pos hr] at h
    exact absurd h (not_out_of_turn_ok s)
  · rw [if_neg hr]
    exact ⟨Bool.eq_false_iff.mpr hr, rfl⟩

variable [Engine ε] {s : Stream ε}

/-- Metadata is refused after the header section. Besides, the answer to a request that is refused may fail,
with whatever the transport says. -/
theorem onMetadata_out_of_turn {headers : Headers} (h : OutOfTurn (s.onMetadata headers)) :
    s.onMetadata headers = s.refuse .metadataAfterHeaders ∨
      RequestLine.Incomplete headers ∧ s.state = .initial ∧
        (s.onMetadata headers).1 = (s.link.sendReply (refusalHeaders s.replyVersion) true).1 := by
  obtain ⟨hr, _⟩ := accepted_of_out_of_turn h
  have hopen : ¬ (s.state = .requestLine ∨ s.state = .headerFields) := by
    intro hs
    rw [onMetadata_open hr hs] at h
    exact not_out_of_turn_of_engine_only (forwardFields_engine_only _) h
  cases hs : s.state with
  | initial =>
    cases hne : headers.isEmpty with
    | true =>
      have he : s.onMetadata headers = (.ok (), s) := by simp [onMetadata, unlessRejected, hr, hs, hne]
      rw [he] at h
      exact absurd h (not_out_of_turn_ok s)
    | false =>
      rw [onMetadata_first hr hs hne] at h ⊢
      cases hl : RequestLine.ofHeaders headers with
      | error e =>
        obtain ⟨what, rfl⟩ := RequestLine.error_malformed hl
        rw [run_incomplete s hl, ← replyHeaders_badRequest]
        exact .inr ⟨RequestLine.incomplete_iff.mpr ⟨_, hl⟩, rfl, rfl⟩
      | ok line =>
        rw [run_complete s hl] at h
        exact absurd h (not_out_of_turn_of_engine_only
          (Outcome.engine_only_andThen (invoke_engine_only _ _) fun t => forwardFields_engine_only _))
  | requestLine => exact absurd (.inl hs) hopen
  | headerFields => exact absurd (.inr hs) hopen
  | headersComplete | body | final => exact .inl (onMetadata_past hr (by simp [hs, Lifecycle.canBlock]) headers)

theorem onHeadersEnd_out_of_turn (h : OutOfTurn s.onHeadersEnd) :
    s.onHeadersEnd = s.refuse .headersEndBeforeRequestLine ∧ s.state = .initial := by
  obtain ⟨hr, hnext⟩ := accepted_of_out_of_turn h
  have hopen : ¬ (s.state = .requestLine ∨ s.state = .headerFields) := by
    intro hs
    rw [onHeadersEnd_open hr hs] at h
    exact not_out_of_turn_of_engine_only (invoke_engine_only _ _) h
  have hpast : ¬ (s.state = .headersComplete ∨ s.state = .body ∨ s.state = .final) := by
    intro hs
    rw [onHeadersEnd_past hs] at h
    exact not_out_of_turn_ok s h
  cases hs : s.state with
  | initial =>
    rw [onHeadersEnd, hnext, hs]
    exact ⟨rfl, rfl⟩
  | requestLine => exact absurd (.inl hs) hopen
  | headerFields => exact absurd (.inr hs) hopen
  | headersComplete => exact absurd (.inl hs) hpast
  | body => exact absurd (.inr (.inl hs)) hpast
  | final => exact absurd (.inr (.inr hs)) hpast

theorem takeBody_out_of_turn {data : Octets} {last : Bool} (h : OutOfTurn (takeBody data last s)) :
    (∃ operation, takeBody data last s = s.refuse operation) ∧
      (s.state.isReading = false ∨ s.buffer.fragment ≠ []) := by
  unfold takeBody at h ⊢
  by_cases hs : s.state.isReading = true
  · rw [if_pos hs] at h ⊢
    cases hf : s.buffer.fill data last with
    | error n => exact ⟨⟨_, rfl⟩, .inr (Buffer.fill_error_iff.mp ⟨n, hf⟩)⟩
    | ok b =>
      simp only [hf, run_enter (by decide : Lifecycle.body ≠ .requestLine)] at h
      exact absurd h (not_out_of_turn_of_engine_only (announceChunk_engine_only _))
  · rw [if_neg hs]
    exact ⟨⟨_, rfl⟩, .inl (Bool.eq_false_iff.mpr hs)⟩

theorem takeEnd_engine_only (s : Stream ε) : s.takeEnd.EngineOnly := by
  rw [takeEnd, run_enter (by decide)]
  exact invoke_engine_only _ _

/-- Where the end of the header section comes first and then something else, the refusal may be of either. -/
theorem out_of_turn_andThen {next : Stream ε → Outcome StreamError (Stream ε)}
    (h : OutOfTurn (s.onHeadersEnd.andThen next)) :
    s.state = .initial ∧ s.onHeadersEnd.andThen next = s.refuse .headersEndBeforeRequestLine ∨
      ∃ t, s.onHeadersEnd = (.ok (), t) ∧ OutOfTurn (next t) ∧ s.onHeadersEnd.andThen next = next t := by
  rcases he : s.onHeadersEnd with ⟨e | _, t⟩
  · rw [he] at h
    have hend : OutOfTurn s.onHeadersEnd := he ▸ h
    obtain ⟨hrefused, hs⟩ := onHeadersEnd_out_of_turn hend
    rw [← he, hrefused]
    exact .inl ⟨hs, rfl⟩
  · rw [he] at h
    exact .inr ⟨t, rfl, h, rfl⟩

/-- A body frame that ends the header section is not refused after that. -/
theorem onBody_out_of_turn (hε : Engine.LeavesEmpty ε) (hs : Timely s) {data : Octets} {last : Bool}
    (h : OutOfTurn (s.onBody data last)) : ∃ operation, s.onBody data last = s.refuse operation := by
  obtain ⟨_, hnext⟩ := accepted_of_out_of_turn h
  have hbody : s.onBody data last = s.onHeadersEnd.andThen fun s => s.unlessRejected (takeBody data last) := hnext
  rw [hbody] at h ⊢
  rcases out_of_turn_andThen h with ⟨_, hend⟩ | ⟨t, he, ht, hb⟩
  · exact ⟨_, hend⟩
  · obtain ⟨_, htake⟩ := accepted_of_out_of_turn ht
    rw [htake] at ht hb
    rw [hb]
    obtain ⟨hrefused, hwhy⟩ := takeBody_out_of_turn ht
    rcases onHeadersEnd_ok he with rfl | ⟨hi, rfl⟩
    · exact hrefused
    · have hempty : s.buffer.fragment = [] :=
        hs.2.resolve_left (by rcases hi with hi | hi <;> simp [hi, Lifecycle.canBlock])
      rcases hwhy with hw | hw
      · simp [Lifecycle.isReading] at hw
      · rw [invoke_snd] at hw
        exact absurd (hε _ _ _ hempty) hw

/-- The end of the stream is refused before the header section, and not later. -/
theorem onEnd_out_of_turn (h : OutOfTurn s.onEnd) : s.onEnd = s.refuse .endBeforeRequestLine := by
  obtain ⟨hr, _⟩ := accepted_of_out_of_turn h
  have hlate : ∀ (hi : s.state ≠ .initial),
      ¬ OutOfTurn (s.onHeadersEnd.andThen fun s => s.unlessRejected takeEnd) := by
    intro hi hl
    rcases out_of_turn_andThen hl with ⟨hs, _⟩ | ⟨t, _, ht, _⟩
    · exact hi hs
    · rw [(accepted_of_out_of_turn ht).2] at ht
      exact not_out_of_turn_of_engine_only (takeEnd_engine_only t) ht
  cases hs : s.state with
  | initial | requestLine => simp [onEnd, unlessRejected, hr, hs]
  | final =>
    have he : s.onEnd = (.ok (), s) := by simp [onEnd, unlessRejected, hr, hs]
    rw [he] at h
    exact absurd h (not_out_of_turn_ok s)
  | headerFields | headersComplete | body =>
    have he : s.onEnd = s.onHeadersEnd.andThen fun s => s.unlessRejected takeEnd := by
      simp [onEnd, unlessRejected, hr, hs]
    rw [he] at h
    exact absurd h (hlate (by simp [hs]))

/-- What a frame is refused with, it is refused with at once. -/
theorem receive_out_of_turn (hε : Engine.LeavesEmpty ε) (hs : Timely s) {frame : InFrame}
    (h : OutOfTurn (s.receive frame)) : (∃ operation, s.receive frame = s.refuse operation) ∨
      ∃ headers, frame = .metadata headers ∧ RequestLine.Incomplete headers ∧ s.state = .initial ∧
        (s.receive frame).1 = (s.link.sendReply (refusalHeaders s.replyVersion) true).1 := by
  cases frame with
  | metadata headers =>
    rcases onMetadata_out_of_turn h with hm | hm
    · exact .inl ⟨_, hm⟩
    · exact .inr ⟨headers, rfl, hm⟩
  | headersEnd => exact .inl ⟨_, (onHeadersEnd_out_of_turn h).1⟩
  | body data last => exact .inl (onBody_out_of_turn hε hs h)
  | streamEnd => exact .inl ⟨_, onEnd_out_of_turn h⟩

end Stream

open FramedHttp.Stream

namespace Session

variable [Engine ε]

/-- A wait that fails out of turn came before the end of the header section, or asked for frames and failed
with what it was told. -/
theorem course_out_of_turn {x : Transport ε} {arrivals : List (List Happening)} {maxIdle : Duration} {s : Session ε}
    {r : Except StreamError (Option Octets) × Session ε} {calls : List LinkCall}
    (hs : s.stream.pending = false)
    (h : Waiting.Course x.waiting (arrivals.map undergo) maxIdle s r calls) {operation : Refused} {state : Lifecycle}
    (he : r.1 = .error (.illegalState operation state)) :
    r.2 = s ∧ calls = [] ∨ (x.pull s).1 = .error (.illegalState operation state) ∧ calls = [.pull] := by
  by_cases hb : s.stream.state.canBlock = true
  · by_cases hf : Starved s
    · cases hp : (x.pull s).1 with
      | error e =>
        obtain ⟨hr, _, hcalls⟩ := course_failed h hb hf e hp
        cases he.symm.trans hr
        exact .inr ⟨rfl, hcalls⟩
      | ok =>
        rcases course_pulled h ⟨hs, hb⟩ hf hp with ⟨hr, _⟩ | ⟨_, hr, _⟩ <;> cases he.symm.trans hr
    · cases he.symm.trans (course_fed h hb hf).1
  · exact .inl (course_early h hb).2

/-- A call that the stream or its channel refuses, since it comes out of turn, changes nothing. Where a call
fails out of turn otherwise, it passes on what the transport said of a reply or of a request for frames. -/
theorem out_of_turn_unchanged (hε : Engine.LeavesEmpty ε) (settings : Settings) (link : Link) (engine : ε)
    (inbox : List InFrame) (pressure : Bool) (before : List Happening) :
    let start : Session ε := { stream := .new settings link engine, inbox := inbox, pressure := pressure }
    let s := undergo before start
    (∀ frame operation state, (s.stream.receive frame).1 = .error (.illegalState operation state) →
      (s.stream.receive frame).2 = s.stream ∨
      ∃ headers, frame = .metadata headers ∧ RequestLine.Incomplete headers ∧ s.stream.state = .initial ∧
        (s.link.sendReply (refusalHeaders s.stream.replyVersion) true).1 = .error (.illegalState operation state)) ∧
    (s.perform .availableNow).2 = s ∧
    (∀ n e, (s.consume n).1 = .error e → (s.consume n).2 = s) ∧
    (∀ (x : Transport ε) (arrivals : List (List Happening)) (maxIdle : Duration) (operation : Refused)
      (state : Lifecycle),
      let r := x.waiting.logged.block ((arrivals.map undergo).map Waiting.beside) maxIdle (s, [])
      r.1 = .error (.illegalState operation state) →
        r.2 = (s, []) ∨ (x.pull s).1 = .error (.illegalState operation state) ∧ r.2.2 = [.pull]) ∧
    ∀ (during : List Happening) (maxIdle : Duration) (operation : Refused) (state : Lifecycle),
      let r := s.blockDuring (undergo during) maxIdle
      r.1 = .error (.illegalState operation state) →
        r.2 = s ∨ s.pull.1 = .error (.illegalState operation state) := by
  intro start s
  have hs : Timely s.stream := undergo_keeps (empty_timely hε) (fun _ => id) before ⟨rfl, .inr rfl⟩
  constructor
  · intro frame operation state he
    rcases receive_out_of_turn hε hs ⟨operation, state, he⟩ with ⟨_, hr⟩ | ⟨headers, hf, hi, hst, hr⟩
    · rw [hr]
      exact .inl rfl
    · exact .inr ⟨headers, hf, hi, hst, hr.symm.trans he⟩
  constructor
  · rfl
  constructor
  · intro n e he
    unfold consume at he ⊢
    split
    · next hb =>
      rw [hb] at he
      cases he
    · rfl
  constructor
  · intro x arrivals maxIdle operation state r he
    obtain ⟨hr, hc⟩ := Waiting.block_course x.waiting (arrivals.map undergo) maxIdle s
    rw [hr] at hc
    exact (course_out_of_turn hs.1 hc he).imp (fun h => Prod.ext h.1 h.2) id
  · intro during maxIdle operation state r he
    have hr : r = Transport.ofLink.waiting.block ([during].map undergo) maxIdle s :=
      blockDuring_eq (undergo during) maxIdle s
    have hc := (Waiting.block_course Transport.ofLink.waiting ([during].map undergo) maxIdle s).2
    rw [← hr] at hc
    have hpull : (Transport.ofLink.pull s).1 = s.pull.1 := congrArg Prod.fst (ofLink_pull s)
    rw [← hpull]
    exact (course_out_of_turn hs.1 hc he).imp And.left And.left

/-- Trailers, a body frame that finds octets unread, and a reader that consumes too much. -/
theorem trailers_unchanged :
    let first := Headers.ofPairs [("method", "POST"), ("url", "/x"), ("version", "HTTP/1.1")]
    let before : List Happening := [.use (.receive (.metadata first)), .use (.receive (.body [120] false))]
    let s := undergo before { stream := .new {} {} ({} : Recorder) }
    let trailers : InFrame := .metadata (.ofPairs [("x-trailer", "1")])
    let second : InFrame := .body [121] true
    Engine.LeavesEmpty Recorder ∧
      (s.stream.receive trailers).1 = .error (.illegalState .metadataAfterHeaders .body) ∧
      (s.stream.receive trailers).2 = s.stream ∧
      (s.stream.receive second).1 = .error (.illegalState .bodyFrameOnUnread .body) ∧
      (s.stream.receive second).2 = s.stream ∧
      (s.consume 2).1 = .error (.illegalState .consumeBeyondBuffered .body) ∧ (s.consume 2).2 = s := by
  intro first before s trailers second
  have hε : Engine.LeavesEmpty Recorder := Engine.leaves_empty_of_consumes Recorder.consumes_only
  obtain ⟨hreceive, _, hconsume, _⟩ := out_of_turn_unchanged hε {} {} {} [] true before
  have htrailers : (s.stream.receive trailers).1 = .error (.illegalState .metadataAfterHeaders .body) := by rfl
  have hsecond : (s.stream.receive second).1 = .error (.illegalState .bodyFrameOnUnread .body) := by rfl
  have hmany : (s.consume 2).1 = .error (.illegalState .consumeBeyondBuffered .body) := by rfl
  have hbody : s.stream.state ≠ .initial := by decide +kernel
  have hsame : ∀ frame operation state, (s.stream.receive frame).1 = .error (.illegalState operation state) →
      (s.stream.receive frame).2 = s.stream := by
    intro frame operation state he
    rcases hreceive frame operation state he with h | ⟨_, _, _, hi, _⟩
    · exact h
    · exact absurd hi hbody
  exact ⟨hε, htrailers, hsame _ _ _ htrailers, hsecond, hsame _ _ _ hsecond, hmany, hconsume 2 _ hmany⟩

end Session

end FramedHttp
