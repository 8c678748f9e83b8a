import FramedHttp.Proofs.Exchange.Working

/-!
# The header section of a served stream

Until its header section ends, a stream only assembles the request. At the end one of three has happened:
the stream has refused the request, the exchange has refused it, or a worker has taken it over. Refusing
sends the one closing reply.
-/

set_option autoImplicit false

namespace FramedHttp

open Content Generator

namespace RequestHead

theorem ofRequestLine_head {method target version : String} {head : RequestHead}
    (h : ofRequestLine method target version = .ok head) : head.target = target ∧ head.headers = .empty := by
  unfold ofRequestLine at h
  split at h
  · cases h
  · split at h
    · cases h
    · cases h
      exact ⟨rfl, rfl⟩

end RequestHead

namespace Exchange

/-- The worker of a request has a name unless there is a NUL character in the path. -/
theorem isNameable_iff {head : RequestHead} :
    isNameable head = true ↔ '\x00' ∉ Target.path head.target.toList := by
  simp only [isNameable, RequestHead.path, String.toList_ofList, List.all_eq_true, bne_iff_ne]
  constructor
  · intro h hc
    exact h _ hc rfl
  · intro h c hc he
    exact h (he ▸ hc)

/-- Nothing of the request has been answered. -/
structure Idle (x : Exchange ReplyState) : Prop where
  sink : ∃ r, x.sink = some r ∧ r.replied = false
  idle : x.worker = none
  taken : x.refused = false
  returns : Handler.Returns x.handler

/-- There is a head to make a worker of, or a reason to refuse the request. -/
structure Prepared (x : Exchange ReplyState) : Prop extends Idle x where
  line : x.lineError ≠ none ∨ ∃ head, x.head = some head ∧ isNameable head = true

variable {x : Exchange ReplyState} {link : Link}

theorem start_prepared (h : Idle x) {method target version : String}
    (ht : '\x00' ∉ Target.path target.toList) : Prepared (x.start method target version) := by
  unfold start
  cases hl : RequestHead.ofRequestLine method target version with
  | error e => exact { sink := h.sink, idle := h.idle, taken := h.taken, returns := h.returns, line := .inl nofun }
  | ok head =>
    have hn : isNameable head = true := by
      rwa [isNameable_iff, (RequestHead.ofRequestLine_head hl).1]
    exact { sink := h.sink, idle := h.idle, taken := h.taken, returns := h.returns, line := .inr ⟨head, rfl, hn⟩ }

theorem field_prepared (h : Prepared x) (name value : String) : Prepared (x.field name value) where
  sink := h.sink
  idle := h.idle
  taken := h.taken
  returns := h.returns
  line := by
    rcases h.line with hl | ⟨head, hh, hn⟩
    · exact .inl hl
    · exact .inr ⟨head.withField name value, congrArg (Option.map _) hh, hn⟩

/-- A refusal is one closing reply. -/
theorem refusal_sent {r : ReplyState} (hr : r.replied = false) (hq : link.Quiet) (hs : link.sent = [])
    (bufferSize : Nat) :
    (refusal bufferSize r link).1 = .ok () ∧ (refusal bufferSize r link).2.sink.2.Quiet ∧
      ∃ headers, (refusal bufferSize r link).2.sink.2.sent = [.reply headers true] := by
  have hn : Framed (Generator.new (r, link) bufferSize) [] := framed_new hr hq.sends hs bufferSize false
  have hb := framed_carries.changeHead hn fun k => { k with status := .badRequest }
  have hc := quiet_persists.changeHead (g := Generator.new (r, link) bufferSize) hq
    fun k => { k with status := .badRequest }
  obtain ⟨hok, hf⟩ := framed_carries.complete_accept hb
  obtain ⟨before, last, hsent, _⟩ := conveyed_closed hf.conveyed (complete_completed hok)
  rcases conveyed_nil hf.conveyed rfl with hnil | hreply
  · rw [hnil] at hsent
    exact absurd hsent.symm (by simp)
  · exact ⟨hok, quiet_persists.complete hc, hreply⟩

/-- At the end of the header section the exchange refuses the request, or starts a worker for it. -/
theorem headersComplete_prepared (h : Prepared x) (hq : link.Quiet) (hs : link.sent = []) :
    ∃ y l, x.headersComplete link = (.ok (), y, l) ∧ l.Quiet ∧
      (y.refused = true ∧ y.worker = none ∧ (∃ headers, l.sent = [.reply headers true]) ∨
        y.refused = false ∧ ∃ w, y.worker = some w ∧ w.stage = .handling x.handler ∧
          Framed (w.response.mapSink fun sink => (sink, l)) []) := by
  obtain ⟨r, hr, hnew⟩ := h.sink
  cases hl : x.lineError with
  | some e =>
    obtain ⟨hok, hquiet, hsent⟩ := refusal_sent hnew hq hs x.bufferSize
    have hx : x.headersComplete link =
        (.ok (), { x with sink := none, lineError := none, refused := true },
          (refusal x.bufferSize r link).2.sink.2) := by
      simp [headersComplete, hr, hl, Outcome.mapState, hok]
    exact ⟨_, _, hx, hquiet, .inl ⟨rfl, h.idle, hsent⟩⟩
  | none =>
    obtain ⟨head, hh, hn⟩ := h.line.resolve_left (absurd hl)
    have hx : x.headersComplete link =
        (.ok (), { x with sink := none, head := none, worker := some (x.workerFor r head),
                          started := x.started + 1 }, link) := by
      simp [headersComplete, hr, hl, dispatch, hh, hn, Outcome.mapState, workerFor]
    have hw : Framed ((x.workerFor r head).response.mapSink fun sink => (sink, link)) [] :=
      framed_new hnew hq.sends hs x.bufferSize (!head.method.allowsResponseBody)
    exact ⟨_, _, hx, hq, .inr ⟨h.taken, _, rfl, rfl, hw⟩⟩

end Exchange

namespace Stream

/-- Nothing was sent, and nothing of a body has come. -/
structure Unanswered (s : Stream (Exchange ReplyState)) : Prop where
  accepted : s.rejected = false
  buffer : s.buffer = {}
  quiet : s.link.Quiet
  sent : s.link.sent = []

structure Fresh (s : Stream (Exchange ReplyState)) : Prop extends Unanswered s where
  state : s.state = .initial
  idle : s.engine.Idle

structure Assembling (s : Stream (Exchange ReplyState)) : Prop extends Unanswered s where
  state : s.state = .headerFields
  prepared : s.engine.Prepared

/-- Answered without a worker. -/
structure Answered (s : Stream (Exchange ReplyState)) : Prop where
  idle : s.engine.worker = none
  drained : s.buffer.fragment = []
  quiet : s.link.Quiet
  sent : ∃ headers, s.link.sent = [.reply headers true]

/-- The worker of the stream, and what it has done. -/
structure Attended (s : Stream (Exchange ReplyState)) (w : Worker ReplyState) : Prop where
  taken : s.engine.refused = false
  worker : s.engine.worker = some w
  response : ∃ octets, Framed (w.response.mapSink fun sink => (sink, s.link)) octets
  due : w.stage.Due w.response.phase s.buffer.discarding

/-- What the end of the header section has come to. -/
inductive Begun (s : Stream (Exchange ReplyState)) : Prop
  | refused (h : Answered s) (hr : s.engine.refused = true)
  | attended (w : Worker ReplyState) (h : Attended s w)

/-- Where a served stream stands while these frames are in its inbox. -/
inductive Standing (s : Stream (Exchange ReplyState)) (inbox : List InFrame) : Prop
  | fresh (h : Fresh s) (hf : RequestFrames inbox)
  | assembling (h : Assembling s) (hf : HeaderFrames inbox)
  | rejected (h : Answered s) (hr : s.rejected = true) (hs : s.state = .final)
  | begun (h : Begun s) (hs : Streaming s inbox)

variable {s t : Stream (Exchange ReplyState)} {inbox rest : List InFrame} {frame : InFrame}

theorem invoke_field_assembling (h : Assembling s) (name value : String) :
    ∃ t, s.invoke (.field name value) = (.ok (), t) ∧ Assembling t := by
  have hp : (s.engine.field name value).Prepared := Exchange.field_prepared h.prepared name value
  exact ⟨_, rfl, ⟨h.accepted, h.buffer, h.quiet, h.sent⟩, h.state, hp⟩

theorem forwardFields_assembling (h : Assembling { s with metadata := none }) :
    ∃ t, s.forwardFields = (.ok (), t) ∧ Assembling t := by
  unfold forwardFields
  split
  · next hm =>
    rw [← hm] at h
    exact ⟨s, rfl, h⟩
  · apply invokeAll_ok _ h
    intro cb hcb t ht
    obtain ⟨f, _, rfl⟩ := List.mem_map.mp hcb
    exact invoke_field_assembling ht f.name f.value

/-- More metadata continues the header section. -/
theorem receive_metadata_assembling (h : Assembling s) (headers : Headers) :
    ∃ t, s.receive (.metadata headers) = (.ok (), t) ∧ Assembling t := by
  have hm : s.receive (.metadata headers) = ({ s with metadata := some headers }.reach .headerFields).forwardFields := by
    change s.onMetadata headers = _
    simp only [onMetadata, unlessRejected, h.accepted, h.state, Bool.false_eq_true, if_false]
    exact run_enter (by decide) _
  rw [hm]
  exact forwardFields_assembling ⟨⟨h.accepted, h.buffer, h.quiet, h.sent⟩, rfl, h.prepared⟩

theorem reject_answered (h : Unanswered s) (hi : s.engine.worker = none) (e : StreamError) :
    ∃ t, s.reject e = (.ok (), t) ∧ Answered t ∧ t.rejected = true ∧ t.state = .final := by
  have hs : s.link.sendReply (replyHeaders (.ofStatus e.status) s.replyVersion) true = _ :=
    Link.sendReply_ok h.quiet.sends _ _
  have hb : s.buffer.fragment = [] := by rw [h.buffer]
  have hok : s.reject e = (.ok (), (s.reject e).2) := by
    apply Prod.ext
    · change (s.link.sendReply (replyHeaders (.ofStatus e.status) s.replyVersion) true).1 = _
      rw [hs]
    · rfl
  have hquiet : (s.reject e).2.link.Quiet := h.quiet.sendReply _ _
  have hsent : (s.reject e).2.link.sent = [.reply (replyHeaders (.ofStatus e.status) s.replyVersion) true] := by
    change (s.link.sendReply (replyHeaders (.ofStatus e.status) s.replyVersion) true).2.sent = _
    rw [hs, h.sent]
    rfl
  exact ⟨_, hok, ⟨hi, hb, hquiet, _, hsent⟩, rfl, rfl⟩

/-- The first metadata starts the request, unless its request line is incomplete. -/
theorem receive_fresh (h : Fresh s) (hf : RequestFrames (frame :: rest)) :
    ∃ t, s.receive frame = (.ok (), t) ∧ Standing t rest := by
  cases hf with
  | @request first _ hne hpath hrest =>
    have hm : s.receive (.metadata first) = ({ s with metadata := some first }.enter .requestLine).run := by
      change s.onMetadata first = _
      simp [onMetadata, unlessRejected, h.accepted, h.state, hne]
    rw [hm]
    cases hl : RequestLine.ofHeaders first with
    | error e =>
      have hu : Unanswered (s.opening first) := ⟨h.accepted, h.buffer, h.quiet, h.sent⟩
      obtain ⟨t, ht, ha, hr, hs⟩ := reject_answered hu h.idle.idle e
      exact ⟨t, (run_incomplete s hl).trans ht, .rejected ha hr hs⟩
    | ok line =>
      rw [run_complete s hl]
      have hp : (s.engine.start line.method line.target line.version).Prepared :=
        Exchange.start_prepared h.idle (hpath line hl)
      obtain ⟨t, ht, ha⟩ := forwardFields_assembling
        (s := (((s.opening first).invoke (.start line.method line.target line.version)).2).reach .headerFields)
        ⟨⟨h.accepted, h.buffer, h.quiet, h.sent⟩, rfl, hp⟩
      exact ⟨t, ht, .assembling ha hrest⟩

/-- The end of the header section brings the worker in, or the refusal. -/
theorem headersEnd_assembling (h : Assembling s) (hf : BodyFrames inbox) :
    ∃ t, s.onHeadersEnd = (.ok (), t) ∧ Streaming t inbox ∧ t.state.isReading = true ∧ t.buffer = {} ∧
      Begun t := by
  obtain ⟨y, l, hc, hq, hy⟩ := Exchange.headersComplete_prepared h.prepared h.quiet h.sent
  have hcall : s.onHeadersEnd = (.ok (), { s.reach .headersComplete with
      callbacks := s.callbacks ++ [.headersComplete], seat := ⟨y, s.buffer, l⟩ }) := by
    have hc' : s.seat.engine.headersComplete s.seat.link = (.ok (), y, l) := hc
    rw [onHeadersEnd_open h.accepted (.inr h.state)]
    simp [invoke, Engine.call, Exchange.receive, hc', Outcome.mapState, Outcome.mapError, buffer]
  have hb : s.buffer.fragment = [] := by rw [h.buffer]
  have harriving : Arriving .headersComplete s.buffer.complete inbox := by
    rw [h.buffer]
    exact .growing rfl hf
  have hbegun : Begun { s.reach .headersComplete with
      callbacks := s.callbacks ++ [.headersComplete], seat := ⟨y, s.buffer, l⟩ } := by
    rcases hy with ⟨hr, hw, hsent⟩ | ⟨hr, w, hw, hstage, hframed⟩
    · exact .refused ⟨hw, hb, hq, hsent⟩ hr
    · have hdue : w.stage.Due w.response.phase s.buffer.discarding := by
        rw [hstage]
        exact h.prepared.returns
      exact .attended w ⟨hr, hw, ⟨[], hframed⟩, hdue⟩
  exact ⟨_, hcall, ⟨h.accepted, harriving, fun _ => hb, hq⟩, rfl, h.buffer, hbegun⟩

theorem answered_passed (h : Answered s) (hr : s.engine.refused = true) (hp : Passed s t) : Answered t where
  idle := by
    rw [hp.engine]
    exact h.idle
  drained := hp.dropped hr h.drained
  quiet := by
    rw [hp.link]
    exact h.quiet
  sent := by
    rw [hp.link]
    exact h.sent

theorem attended_passed {w : Worker ReplyState} (h : Attended s w) (hp : Passed s t) : Attended t w where
  taken := by
    rw [hp.engine]
    exact h.taken
  worker := by
    rw [hp.engine]
    exact h.worker
  response := by
    rw [hp.link]
    exact h.response
  due := by
    rw [hp.discarding]
    exact h.due

theorem begun_passed (h : Begun s) (hp : Passed s t) : Begun t := by
  cases h with
  | refused h hr =>
    have ht : t.engine.refused = true := by
      rw [hp.engine]
      exact hr
    exact .refused (answered_passed h hr hp) ht
  | attended w h => exact .attended w (attended_passed h hp)

theorem receive_begun (h : Begun s) (hs : Streaming s (frame :: rest))
    (hh : Session.holds true frame s = false) : ∃ t, s.receive frame = (.ok (), t) ∧ Standing t rest := by
  obtain ⟨t, ht, hstream, hp⟩ := receive_streaming hs hh
  exact ⟨t, ht, .begun (begun_passed h hp) hstream⟩

/-- The first frame of a body ends the header section, and is then taken like any other. -/
theorem receive_body_assembling (h : Assembling s) (hf : BodyFrames (frame :: rest)) :
    ∃ t, s.receive frame = (.ok (), t) ∧ Standing t rest := by
  obtain ⟨t, ht, hstream, hread, hb, hbegun⟩ := headersEnd_assembling h hf
  have hd : t.buffer.isDrained = true := by rw [hb]; rfl
  have hh : Session.holds true frame t = false := by cases frame <;> simp [Session.holds, hd]
  have hr : s.receive frame = t.receive frame := by
    cases hf with
    | ended => exact onEnd_open h.accepted h.state ht hstream.accepted hread
    | last data => exact onBody_open h.accepted ht hread data true
    | more data => exact onBody_open h.accepted ht hread data false
  rw [hr]
  exact receive_begun hbegun hstream hh

/-- A frame that need not wait is taken, wherever the stream stands. -/
theorem receive_standing (h : Standing s (frame :: rest)) (hh : Session.holds true frame s = false) :
    ∃ t, s.receive frame = (.ok (), t) ∧ Standing t rest := by
  cases h with
  | fresh h hf => exact receive_fresh h hf
  | assembling h hf =>
    cases hf with
    | more headers hf =>
      obtain ⟨t, ht, ha⟩ := receive_metadata_assembling h headers
      exact ⟨t, ht, .assembling ha hf⟩
    | ended hf =>
      obtain ⟨t, ht, hstream, _, _, hb⟩ := headersEnd_assembling h hf
      exact ⟨t, ht, .begun hb hstream⟩
    | body hf => exact receive_body_assembling h hf
  | rejected h hr hs => exact ⟨s, receive_rejected hr frame, .rejected h hr hs⟩
  | begun h hs => exact receive_begun h hs hh

end Stream

end FramedHttp
