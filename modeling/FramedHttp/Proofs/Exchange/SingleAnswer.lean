import FramedHttp.Exchange.Service
import FramedHttp.Proofs.Exchange.Arrival
import FramedHttp.Proofs.Exchange.WorkerRun
import FramedHttp.Proofs.Frame.SingleReply
import FramedHttp.Proofs.Stream.Run

/-!
# A stream is answered once

A stream can be answered from three places: by itself, by the exchange that refuses a request, and by the
worker of the exchange. Whatever frames arrive, whichever sends fail and however the turns fall, only one of
them ever speaks, and what it sends is one conversation.
-/

set_option autoImplicit false

namespace FramedHttp

open Content Generator

/-- Two seats that agree in who may answer and in what was answered. -/
structure Seat.Alike (a b : Seat (Exchange ReplyState)) : Prop where
  sink : b.engine.sink = a.engine.sink
  worker : b.engine.worker = a.engine.worker
  started : b.engine.started = a.engine.started
  sent : b.link.sent = a.link.sent
  data : b.link.dataFrames = a.link.dataFrames
  replies : b.link.replies = a.link.replies

theorem Seat.alike_of_eq {a b : Seat (Exchange ReplyState)} (he : b.engine = a.engine)
    (hl : b.link = a.link) : a.Alike b :=
  ⟨congrArg _ he, congrArg _ he, congrArg _ he, congrArg _ hl, congrArg _ hl, congrArg _ hl⟩

theorem Seat.Alike.trans {a b c : Seat (Exchange ReplyState)} (h : a.Alike b) (k : b.Alike c) : a.Alike c where
  sink := k.sink.trans h.sink
  worker := k.worker.trans h.worker
  started := k.started.trans h.started
  sent := k.sent.trans h.sent
  data := k.data.trans h.data
  replies := k.replies.trans h.replies

theorem Seat.Alike.spoken {a b : Seat (Exchange ReplyState)} (h : a.Alike b) {phase : Phase}
    {r : ReplyState} (hs : Spoken phase r a.link) : Spoken phase r b.link :=
  hs.relink h.sent h.data h.replies

namespace Exchange

theorem start_alike (s : Seat (Exchange ReplyState)) (method target version : String) :
    s.Alike { s with engine := s.engine.start method target version } := by
  unfold start
  split <;> exact ⟨rfl, rfl, rfl, rfl, rfl, rfl⟩

/-- Once its sink is gone, an exchange does nothing at the end of the header section. -/
theorem headersComplete_taken {x : Exchange ReplyState} (h : x.sink = none) (link : Link) :
    x.headersComplete link = (.error (.illegalState .alreadyDispatched), x, link) := by
  simp [headersComplete, h]

/-- Only at the end of the header section, and only once, an exchange speaks or gives its sink away. -/
theorem call_alike {cb : Callback} {s : Seat (Exchange ReplyState)} (o : Occasion)
    (h : cb ≠ .headersComplete ∨ s.engine.sink = none) : s.Alike (Engine.call cb o s).2 := by
  cases cb with
  | start method target version => exact start_alike s method target version
  | field name value => exact ⟨rfl, rfl, rfl, rfl, rfl, rfl⟩
  | headersComplete =>
    have hs : s.engine.sink = none := h.resolve_left (absurd rfl)
    simp only [Engine.call, receive, Outcome.mapState_snd, headersComplete_taken hs]
    exact ⟨rfl, rfl, rfl, rfl, rfl, rfl⟩
  | chunk octets =>
    simp only [Engine.call, receive]
    split <;> exact ⟨rfl, rfl, rfl, rfl, rfl, rfl⟩
  | complete hint => exact ⟨rfl, rfl, rfl, rfl, rfl, rfl⟩

/-- What the end of the header section makes of an exchange that nobody has answered for. -/
theorem headersComplete_spoken {x : Exchange ReplyState} {r : ReplyState} {link : Link}
    (hs : x.sink = some r) (hl : Spoken .opened r link) (hw : x.worker = none) (hn : x.started = 0) :
    let y := (x.headersComplete link).2
    y.1.sink = none ∧
      (y.1.worker = none ∧ y.1.started = 0 ∧ (∃ phase r, Spoken phase r y.2) ∨
        ∃ w, y.1.worker = some w ∧ y.1.started = 1 ∧ Spoken w.response.phase w.response.sink y.2) := by
  intro y
  cases hline : x.lineError with
  | some e =>
    have hy : y = ({ x with sink := none, lineError := none, refused := true },
        (refusal x.bufferSize r link).2.sink.2) := by
      simp [y, headersComplete, hs, hline]
    have hset := spoken_persists.changeHead (g := Generator.new (r, link) x.bufferSize) hl
      fun k => { k with status := .badRequest }
    have hspoken := spoken_persists.complete hset
    rw [hy]
    exact ⟨rfl, .inl ⟨hw, hn, _, _, hspoken⟩⟩
  | none =>
    have hy : y = (({ x with sink := none }.dispatch r).2, link) := by
      simp [y, headersComplete, hs, hline]
    rw [hy]
    unfold dispatch
    split
    · exact ⟨rfl, .inl ⟨hw, hn, _, _, hl⟩⟩
    · dsimp only
      split
      · exact ⟨rfl, .inr ⟨_, rfl, congrArg (· + 1) hn, hl⟩⟩
      · exact ⟨rfl, .inl ⟨hw, hn, _, _, hl⟩⟩

end Exchange

/-- A refusal by the stream itself is one attempt at a closing reply. -/
theorem Link.sendReply_spoken {l : Link} (hs : l.sent = []) (hd : l.dataFrames = 0) (hn : l.replies = 0)
    (headers : Headers) : ∃ r, Spoken .completed r (l.sendReply headers true).2 := by
  cases hres : l.outcome .reply l.replies with
  | error e =>
    have hk : (l.sendReply headers true).2 = { l with replies := l.replies + 1 } := by
      simp [sendReply, deliver, hres]
    rw [hk]
    exact ⟨{ version := .http11 }, heard_silent rfl hs hd, by simp [hn], fun hp => absurd hp (by decide)⟩
  | ok =>
    have hk : (l.sendReply headers true).2 =
        { l with replies := l.replies + 1, sent := [.reply headers true] } := by
      simp [sendReply, deliver, hres, hs]
    rw [hk]
    exact ⟨{ version := .http11, replied := true, closed := true }, heard_bare rfl rfl rfl hd,
      by simp [hn], fun hp => absurd hp (by decide)⟩

namespace Stream

/-- A worker alone answers the stream, with a response that has come this far. -/
structure Entrusted (phase : Phase) (r : ReplyState) (s : Stream (Exchange ReplyState)) : Prop where
  settled : s.pending = false
  accepted : s.rejected = false
  begun : s.state ≠ .initial
  sink : s.engine.sink = none
  started : s.engine.started = 1
  spoken : Spoken phase r s.link

/-- Who answers a stream: nobody yet, while its exchange holds the sink; nobody any more; or a worker. -/
inductive Voice (s : Stream (Exchange ReplyState)) : Prop
  | unspoken {r : ReplyState} (hs : s.engine.sink = some r) (hr : r.replied = false)
      (hl : Spoken .opened r s.link) (hw : s.engine.worker = none) (hn : s.engine.started = 0)
  | dismissed (hs : s.rejected = true ∨ s.engine.sink = none ∧ s.state ≠ .initial)
      (hw : s.engine.worker = none) (hn : s.engine.started = 0) (hl : ∃ phase r, Spoken phase r s.link)
  | attended (w : Worker ReplyState) (hw : s.engine.worker = some w)
      (h : Entrusted w.response.phase w.response.sink s)

def Answerable (s : Stream (Exchange ReplyState)) : Prop :=
  s.pending = false ∧ Voice s

variable {s t : Stream (Exchange ReplyState)} {phase : Phase} {r : ReplyState}

theorem entrusted_alike (h : Entrusted phase r s) (hp : t.pending = false) (hr : t.rejected = s.rejected)
    (hs : t.state = .initial → s.state = .initial) (ha : s.seat.Alike t.seat) : Entrusted phase r t where
  settled := hp
  accepted := hr.trans h.accepted
  begun hi := h.begun (hs hi)
  sink := ha.sink.trans h.sink
  started := ha.started.trans h.started
  spoken := ha.spoken h.spoken

theorem voice_alike (h : Voice s) (hp : t.pending = false) (hr : t.rejected = s.rejected)
    (hs : t.state = .initial → s.state = .initial) (ha : s.seat.Alike t.seat) : Voice t := by
  cases h with
  | unspoken hk hn hl hw h0 =>
    exact .unspoken (ha.sink.trans hk) hn (ha.spoken hl) (ha.worker.trans hw) (ha.started.trans h0)
  | dismissed hd hw h0 hl =>
    have hd : t.rejected = true ∨ t.engine.sink = none ∧ t.state ≠ .initial := by
      rcases hd with hd | ⟨hk, hi⟩
      · exact .inl (hr.trans hd)
      · exact .inr ⟨ha.sink.trans hk, fun hc => hi (hs hc)⟩
    obtain ⟨phase, r, hl⟩ := hl
    exact .dismissed hd (ha.worker.trans hw) (ha.started.trans h0) ⟨phase, r, ha.spoken hl⟩
  | attended w hw h => exact .attended w (ha.worker.trans hw) (entrusted_alike h hp hr hs ha)

/-- A callback that does not end the header section, or comes when the sink is gone. -/
theorem invoke_alike {cb : Callback} (h : cb ≠ .headersComplete ∨ s.engine.sink = none) :
    s.seat.Alike (s.invoke cb).2.seat := by
  have ha := Exchange.call_alike { state := s.state, earlier := s.callbacks } h
  simpa [invoke] using ha

theorem announceChunk_alike (s : Stream (Exchange ReplyState)) :
    s.seat.Alike s.announceChunk.2.seat := by
  unfold announceChunk
  split
  · exact ⟨rfl, rfl, rfl, rfl, rfl, rfl⟩
  · exact invoke_alike (.inl nofun)

theorem forwardFields_alike (s : Stream (Exchange ReplyState)) :
    s.seat.Alike s.forwardFields.2.seat ∧ s.forwardFields.2.state = s.state ∧
      s.forwardFields.2.rejected = s.rejected := by
  apply forwardFields_keeps (P := fun t => s.seat.Alike t.seat ∧ t.state = s.state ∧ t.rejected = s.rejected)
  · rintro f t ⟨ha, hs, hr⟩
    have hi : t.seat.Alike (t.invoke (.field f.name f.value)).2.seat := invoke_alike (.inl nofun)
    exact ⟨ha.trans hi, (invoke_state _ t).trans hs, (invoke_rejected _ t).trans hr⟩
  · exact ⟨Seat.alike_of_eq rfl rfl, rfl, rfl⟩

/-- While the first metadata is awaited nothing was answered. -/
theorem voice_initial (h : Voice s) (hr : s.rejected = false) (hi : s.state = .initial) :
    ∃ r, s.engine.sink = some r ∧ r.replied = false ∧ Spoken .opened r s.link ∧ s.engine.worker = none ∧
      s.engine.started = 0 := by
  cases h with
  | unspoken hk hn hl hw h0 => exact ⟨_, hk, hn, hl, hw, h0⟩
  | dismissed hd =>
    rcases hd with hd | ⟨_, hs⟩
    · exact absurd (hr.symm.trans hd) (by decide)
    · exact absurd hi hs
  | attended w _ h => exact absurd hi h.begun

theorem voice_reject (h : Voice s) (hr : s.rejected = false) (hi : s.state = .initial) (headers : Headers)
    (e : StreamError) : Voice ((s.opening headers).reject e).2 := by
  obtain ⟨r, hk, hn, hl, hw, h0⟩ := voice_initial h hr hi
  have hd : s.link.dataFrames = 0 := by
    rcases Nat.eq_zero_or_pos s.link.dataFrames with hd | hd
    · exact hd
    · obtain ⟨_, hm⟩ := hl.heard.data hd
      simp [hl.heard.silent hn] at hm
  have hs := Link.sendReply_spoken (hl.heard.silent hn) hd (hl.uncommitted rfl)
    (replyHeaders (.ofStatus e.status) s.replyVersion)
  exact .dismissed (.inl rfl) hw h0 ⟨_, hs⟩

theorem voice_headersEnd (h : Voice s) (hr : s.rejected = false) (hk : s.engine.sink ≠ none) :
    Voice ((s.reach .headersComplete).invoke .headersComplete).2 := by
  cases h with
  | unspoken hk hn hl hw h0 =>
    have hseat : ((s.reach .headersComplete).invoke .headersComplete).2.seat =
        ⟨(s.engine.headersComplete s.link).2.1, s.buffer, (s.engine.headersComplete s.link).2.2⟩ := by
      simp [invoke, Engine.call, Exchange.receive, engine, link, buffer]
    obtain ⟨hsink, ⟨hw, h0, hl⟩ | ⟨w, hw, h1, hl⟩⟩ := Exchange.headersComplete_spoken hk hl hw h0
    · apply Voice.dismissed (.inr ⟨?_, by simp⟩)
      all_goals simpa only [engine, link, hseat]
    · apply Voice.attended w _ ⟨by simp, by simpa using hr, by simp, ?_, ?_, ?_⟩
      all_goals simpa only [engine, link, hseat]
  | dismissed hd =>
    rcases hd with hd | ⟨hn, _⟩
    · exact absurd (hr.symm.trans hd) (by decide)
    · exact absurd hn hk
  | attended w _ h => exact absurd h.sink hk

/-- A move leaves it as it was who answers and what was answered, unless the stream refuses the request, or
its exchange comes to the end of the header section with the sink in its hands. -/
theorem move_alike (hm : Move s t) :
    s.seat.Alike t.seat ∧ t.rejected = s.rejected ∧ t.state ≠ .initial ∨
      s.rejected = false ∧ s.state = .initial ∧ (∃ headers e, t = ((s.opening headers).reject e).2) ∨
      s.rejected = false ∧ s.engine.sink ≠ none ∧
        t = ((s.reach .headersComplete).invoke .headersComplete).2 := by
  cases hm with
  | @start headers line hr hi hne hl =>
    have ha : (s.opening headers).seat.Alike
        ((s.opening headers).invoke (.start line.method line.target line.version)).2.seat :=
      invoke_alike (.inl (by simp))
    have hb : s.seat.Alike (s.opening headers).seat := Seat.alike_of_eq rfl rfl
    exact .inl ⟨hb.trans ha, by simp [opening], by simp [opening]⟩
  | reject hr hi hne hl => exact .inr (.inl ⟨hr, hi, _, _, rfl⟩)
  | fields headers hr hi =>
    obtain ⟨ha, hs, hrej⟩ := forwardFields_alike ({ s with metadata := some headers }.reach .headerFields)
    have hb : s.seat.Alike ({ s with metadata := some headers }.reach .headerFields).seat :=
      Seat.alike_of_eq rfl rfl
    have hne : Lifecycle.headerFields ≠ .initial := by decide
    exact .inl ⟨hb.trans ha, hrej, fun hc => hne (hs.symm.trans hc)⟩
  | headersEnd hr hi =>
    by_cases hk : s.engine.sink = none
    · have hk : (s.reach .headersComplete).engine.sink = none := hk
      have ha : s.seat.Alike ((s.reach .headersComplete).invoke .headersComplete).2.seat :=
        invoke_alike (.inr hk)
      exact .inl ⟨ha, by simp, by simp⟩
    · exact .inr (.inr ⟨hr, hk, rfl⟩)
  | @body data last b hr hi hb =>
    have ha := announceChunk_alike ((s.withBuffer b).reach .body)
    have hb : s.seat.Alike ((s.withBuffer b).reach .body).seat := Seat.alike_of_eq rfl rfl
    obtain ⟨c, cbs, hc, _⟩ := announceChunk_ok ((s.withBuffer b).reach .body)
    rw [hc] at ha ⊢
    exact .inl ⟨hb.trans ha, rfl, show Lifecycle.body ≠ .initial by decide⟩
  | finish hr hi =>
    have hb : s.seat.Alike ((s.withBuffer s.buffer.markComplete).reach .final).seat := Seat.alike_of_eq rfl rfl
    have ha : ((s.withBuffer s.buffer.markComplete).reach .final).seat.Alike
        (((s.withBuffer s.buffer.markComplete).reach .final).invoke (.complete 0)).2.seat :=
      invoke_alike (.inl (by simp))
    exact .inl ⟨hb.trans ha, by simp, by simp⟩

theorem voice_move (h : Voice s) (hm : Move s t) : Voice t := by
  rcases move_alike hm with ⟨ha, hr, hs⟩ | ⟨hr, hi, headers, e, rfl⟩ | ⟨hr, hk, rfl⟩
  · exact voice_alike h (move_pending hm) hr (fun hi => absurd hi hs) ha
  · exact voice_reject h hr hi headers e
  · exact voice_headersEnd h hr hk

/-- A worker's stream stays its own, whatever arrives. -/
theorem entrusted_move (h : Entrusted phase r s) (hm : Move s t) : Entrusted phase r t := by
  rcases move_alike hm with ⟨ha, hr, hs⟩ | ⟨_, hi, _⟩ | ⟨_, hk, _⟩
  · exact entrusted_alike h (move_pending hm) hr (fun hi => absurd hi hs) ha
  · exact absurd hi h.begun
  · exact absurd h.sink hk

theorem entrusted_kept : Kept (Entrusted phase r) where
  settled h := h.settled
  move h hm := entrusted_move h hm
  release h _ _ _ := entrusted_alike h h.settled rfl id (Seat.alike_of_eq rfl rfl)
  discard h := entrusted_alike h h.settled rfl id (Seat.alike_of_eq rfl rfl)
  pull h := entrusted_alike h h.settled rfl id ⟨rfl, rfl, rfl, rfl, rfl, rfl⟩
  terminate h := entrusted_alike h h.settled rfl id ⟨rfl, rfl, rfl, rfl, rfl, rfl⟩

theorem answerable_kept : Kept Answerable where
  settled h := h.1
  move h hm := ⟨move_pending hm, voice_move h.2 hm⟩
  release h _ _ _ := ⟨h.1, voice_alike h.2 h.1 rfl id (Seat.alike_of_eq rfl rfl)⟩
  discard h := ⟨h.1, voice_alike h.2 h.1 rfl id (Seat.alike_of_eq rfl rfl)⟩
  pull h := ⟨h.1, voice_alike h.2 h.1 rfl id ⟨rfl, rfl, rfl, rfl, rfl, rfl⟩⟩
  terminate h := ⟨h.1, voice_alike h.2 h.1 rfl id ⟨rfl, rfl, rfl, rfl, rfl, rfl⟩⟩

theorem answerable_new (settings : Settings) (stream : Nat) (faults : List (Fault LinkCall StreamError))
    (pressure : Bool) (handler : Handler) :
    Answerable (Session.new settings { stream := stream, faults := faults } pressure handler).stream :=
  ⟨rfl, .unspoken rfl rfl (spoken_new rfl rfl rfl rfl) rfl rfl⟩

/-- What can be said of an answerable stream whoever answers it. -/
theorem answerable_spoken (h : Answerable s) :
    s.engine.started ≤ 1 ∧ ∃ phase r, Spoken phase r s.link := by
  cases h.2 with
  | unspoken _ _ hl _ hn => exact ⟨hn ▸ Nat.zero_le 1, _, _, hl⟩
  | dismissed _ _ hn hl => exact ⟨hn ▸ Nat.zero_le 1, hl⟩
  | attended w _ h => exact ⟨Nat.le_of_eq h.started, _, _, h.spoken⟩

end Stream

open FramedHttp.Stream

namespace Session

/-- A worker that only reads and writes keeps its stream its own. -/
theorem entrusted_worker :
    Worker.Kept fun (g : Generator ReplyState) (s : Served) => Entrusted g.phase g.sink s.stream where
  bench g := source_keeps entrusted_kept
  respond {g s} h ops := by
    have hs := spoken_persists.run (g := Worker.atBench g s) h.spoken ops
    exact ⟨h.settled, h.accepted, h.begun, h.sink, h.started, hs⟩

variable {s : Served}

theorem answerable_withWorker {x : Worker ReplyState × Served}
    (h : Entrusted x.1.response.phase x.1.response.sink x.2.stream) : Answerable (withWorker x).stream :=
  ⟨h.settled, .attended x.1 rfl ⟨h.settled, h.accepted, h.begun, h.sink, h.started, h.spoken⟩⟩

theorem answerable_entrusted (h : Answerable s.stream) {w : Worker ReplyState} (hw : s.worker? = some w) :
    Entrusted w.response.phase w.response.sink s.stream := by
  have hw : s.stream.engine.worker = some w := hw
  cases h.2 with
  | unspoken _ _ _ hn => exact absurd (hn.symm.trans hw) nofun
  | dismissed _ hn => exact absurd (hn.symm.trans hw) nofun
  | attended v hv h =>
    cases hv.symm.trans hw
    exact h

theorem answerable_work (h : Answerable s.stream) {t : Served} (ht : s.work = some t) : Answerable t.stream := by
  unfold work at ht
  split at ht
  · cases ht
  · next w hw =>
    obtain ⟨y, hy, rfl⟩ := Option.map_eq_some_iff.mp ht
    exact answerable_withWorker (Worker.kept_step entrusted_worker (answerable_entrusted h hw) hy)

theorem answerable_expire (h : Answerable s.stream) : Answerable s.expireWorker.stream := by
  unfold expireWorker
  split
  · exact h
  · next w hw => exact answerable_withWorker (Worker.kept_expire entrusted_worker (answerable_entrusted h hw))

theorem answerable_turn (h : Answerable s.stream) (t : Turn) : Answerable (s.turn t).stream := by
  cases t with
  | deliver =>
    change Answerable ((s.deliverNext.map Prod.snd).getD s).stream
    cases hr : s.deliverNext with
    | none => exact h
    | some r => exact deliverNext_keeps answerable_kept h hr
  | work =>
    change Answerable (s.work.getD s).stream
    cases hr : s.work with
    | none => exact h
    | some t => exact answerable_work h hr
  | expire =>
    change Answerable (if s.isWorkerWaiting then s.expireWorker else s).stream
    split
    · exact answerable_expire h
    · exact h
  | receive frame => exact answerable_kept.receive h frame
  | dispatch => exact answerable_kept.dispatch h

/-- Turns, before each of which more frames may have come in. -/
def liveTurns : List (List InFrame × Turn) → Served → Served
  | [], s => s
  | (frames, t) :: ts, s => liveTurns ts ((s.enqueue frames).turn t)

theorem answerable_liveTurns (h : Answerable s.stream) (ts : List (List InFrame × Turn)) :
    Answerable (liveTurns ts s).stream := by
  induction ts generalizing s with
  | nil => exact h
  | cons t ts ih => exact ih (answerable_turn (s := s.enqueue t.1) h t.2)

/-- Whatever frames come, whatever the handler does, whichever sends fail and however the turns fall, on
one stream the handler is started at most once and one reply at most is attempted. Data is only attempted
after an open reply was sent, and nothing is sent after a frame with the close mark. -/
theorem single_answer (settings : Settings) (stream : Nat) (faults : List (Fault LinkCall StreamError))
    (pressure : Bool) (handler : Handler) (ts : List (List InFrame × Turn)) :
    let s := liveTurns ts (Session.new settings { stream := stream, faults := faults } pressure handler)
    s.stream.engine.started ≤ 1 ∧ s.link.replies ≤ 1 ∧
    (0 < s.link.dataFrames → ∃ headers, .reply headers false ∈ s.link.sent) ∧
    (∀ before octets close after, s.link.sent = before ++ .data octets close :: after →
      ∃ headers, .reply headers false ∈ before) ∧
    (∀ before f after, s.link.sent = before ++ f :: after → f.closes = true → after = []) := by
  intro s
  have ha : Answerable s.stream := answerable_liveTurns (answerable_new settings _ _ pressure handler) ts
  obtain ⟨hstarted, phase, r, hs⟩ := answerable_spoken ha
  have hc : Conversation s.link.sent := hs.heard.conversation
  exact ⟨hstarted, hs.once, hs.heard.data, fun _ _ _ _ => conversation_data hc,
    fun _ _ _ => conversation_closed hc⟩

end Session

end FramedHttp
