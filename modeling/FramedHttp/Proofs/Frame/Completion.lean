import FramedHttp.Proofs.Frame.Confirmed

/-!
# What a completed response tells about its frames

A completion that succeeds over a link on which sends may fail does not tell by itself that the response
got through. It tells that a reply was attempted, and that a reply that got through is followed by the close
mark. If no send failed before it, it tells that all of the response got through; and the call in which the
first send fails reports it.
-/

set_option autoImplicit false

namespace FramedHttp

namespace ReplyState

variable {x : ReplyState × Link}

/-- The last of these frames has the close mark. -/
def lastCloses (frames : List OutFrame) : Bool :=
  frames.getLast?.any OutFrame.closes

theorem lastCloses_snoc (frames : List OutFrame) (f : OutFrame) : lastCloses (frames ++ [f]) = f.closes := by
  simp [lastCloses]

theorem data_marked (h : x.1.closed = lastCloses x.2.sent) (octets : Octets) (close : Bool) :
    (data octets close x).2.1.closed = lastCloses (data octets close x).2.2.sent := by
  cases hr : x.2.outcome .data x.2.dataFrames with
  | error e => simpa [data, Link.sendData, Link.deliver, hr] using h
  | ok => simp [data, Link.sendData, Link.deliver, hr, lastCloses_snoc, OutFrame.closes]

/-- A sink is closed just when the last frame it sent has the close mark. -/
theorem emit_marked (h : x.1.closed = lastCloses x.2.sent) (e : Emission) :
    (emit e x).2.1.closed = lastCloses (emit e x).2.2.sent := by
  have hs := emit_sending e x
  generalize emit e x = r at hs
  cases hs with
  | nothing | lost => exact h
  | data => exact data_marked h _ _
  | bare => simp [lastCloses_snoc, OutFrame.closes]
  | opened =>
    apply data_marked
    simp [lastCloses_snoc, OutFrame.closes]

theorem data_replied (octets : Octets) (close : Bool) : (data octets close x).2.1.replied = x.1.replied := by
  cases hr : x.2.outcome .data x.2.dataFrames <;> simp [data, Link.sendData, hr]

theorem emit_replied {e : Emission} (he : e.kind? ≠ some .headers) :
    (emit e x).2.1.replied = x.1.replied := by
  have hs := emit_sending e x
  generalize emit e x = r at hs
  cases hs with
  | nothing => rfl
  | data => exact data_replied _ _
  | lost | bare | opened => exact absurd rfl he

/-- The headers of a response are one attempt at a reply, and the sink has replied if it got through. -/
theorem headers_replied (hr : x.1.replied = false) (head : ResponseHead) (buffered : Octets) (last : Bool) :
    (headers head buffered last x).2.2.replies = x.2.replies + 1 ∧
    ((headers head buffered last x).2.1.replied = true ↔ x.2.outcome .reply x.2.replies = .ok ()) := by
  have hs := headers_sending head buffered last x
  generalize headers head buffered last x = r at hs
  cases hs with
  | nothing _ hk => cases hr.symm.trans (hk rfl)
  | data _ hk => exact absurd rfl hk
  | lost _ ho => simp [hr, ho]
  | bare _ ho => simp [ho]
  | opened _ ho => simp [data_replied, data_replies, ho]

/-- Both flags together tell whether anything was sent. -/
theorem replied_iff (h : Heard x.1 x.2) (hm : x.1.closed = lastCloses x.2.sent) :
    x.1.replied = true ↔ x.2.sent ≠ [] := by
  constructor
  · intro hr hs
    cases hc : x.1.closed with
    | true =>
      rw [hc, hs] at hm
      cases hm
    | false =>
      obtain ⟨headers, pieces, _, hopen⟩ := h.unclosed hr hc
      cases hs.symm.trans hopen
  · intro hs
    exact Bool.of_not_eq_false fun hr => hs (h.silent hr)

/-- A sink that was told the end and did not fail is closed, if it has replied. -/
theorem finish_closes (hok : (finish x).1 = .ok ()) (hr : (finish x).2.1.replied = true) :
    (finish x).2.1.closed = true := by
  unfold finish at hok hr ⊢
  dsimp only at hok hr ⊢
  split
  · next ho =>
    rw [if_pos ho] at hok
    cases hd : x.2.outcome .data x.2.dataFrames with
    | error e => simp [data, Link.sendData, hd] at hok
    | ok => simp [data, Link.sendData, hd]
  · next ho =>
    rw [if_neg ho] at hr
    have hr : x.1.replied = true := hr
    simpa [hr] using ho

end ReplyState

/-- What the flags of a sink say about its reply, in a response in this phase. -/
structure Replying (phase : Phase) (x : ReplyState × Link) : Prop where
  spoken : Spoken phase x.1 x.2
  attempted : phase ≠ .opened → x.2.replies = 1
  replied : x.1.replied = true ↔ x.2.replies = 1 ∧ x.2.outcome .reply 0 = .ok ()
  marked : x.1.closed = ReplyState.lastCloses x.2.sent

section Replying

variable {phase : Phase} {x : ReplyState × Link}

/-- A response that was committed has one reply on its link, unless the attempt at it failed. -/
theorem replying_reply_iff (h : Replying phase x) (hp : phase ≠ .opened) :
    x.2.sent.countP OutFrame.isReply = 1 ↔ x.2.outcome .reply 0 = .ok () := by
  have hr : x.1.replied = true ↔ x.2.outcome .reply 0 = .ok () := by simp [h.replied, h.attempted hp]
  rw [← hr]
  constructor
  · intro hc
    apply Bool.of_not_eq_false
    intro hn
    rw [h.spoken.heard.silent hn] at hc
    cases hc
  · intro hr
    exact conversation_reply h.spoken.heard.conversation ((ReplyState.replied_iff h.spoken.heard h.marked).mp hr)

/-- A closed sink has sent a closing frame last. -/
theorem replying_closed (h : Replying phase x) (hc : x.1.closed = true) :
    ∃ frames last, x.2.sent = frames ++ [last] ∧ last.closes = true := by
  have hm := h.marked
  rw [hc] at hm
  rcases List.eq_nil_or_concat x.2.sent with hs | ⟨frames, last, hs⟩
  · rw [hs] at hm
    cases hm
  · rw [List.concat_eq_append] at hs
    rw [hs, ReplyState.lastCloses_snoc] at hm
    exact ⟨frames, last, hs, hm.symm⟩

theorem replying_emit (h : Replying phase x) {e : Emission} (he : e.kind? ≠ some .headers)
    (hs : Spoken phase (ReplyState.emit e x).2.1 (ReplyState.emit e x).2.2) :
    Replying phase (ReplyState.emit e x).2 where
  spoken := hs
  attempted hp := (ReplyState.emit_replies x he).trans (h.attempted hp)
  replied := by
    rw [ReplyState.emit_replied he, ReplyState.emit_replies x he,
      Link.outcome_congr (ReplyState.emit_faults e x)]
    exact h.replied
  marked := ReplyState.emit_marked h.marked e

end Replying

namespace Generator

open ReplyState

variable {g : Generator (ReplyState × Link)}

theorem replying_commit (h : Replying g.phase g.sink) (hp : g.phase = .opened) (last : Bool) :
    Replying (g.commit last).2.phase (g.commit last).2.sink := by
  have hn : g.sink.2.replies = 0 := h.spoken.uncommitted hp
  have hr : g.sink.1.replied = false := by
    apply Bool.eq_false_iff.mpr
    intro hr
    have hone := (h.replied.mp hr).1
    omega
  obtain ⟨hcount, hrep⟩ := headers_replied hr g.head g.buffer last
  rw [hn] at hcount hrep
  have hfaults : (headers g.head g.buffer last g.sink).2.2.faults = g.sink.2.faults :=
    emit_faults (.headers g.head g.buffer last) g.sink
  constructor
  · exact spoken_commit h.spoken hp last
  · intro _
    exact hcount
  · change (headers g.head g.buffer last g.sink).2.1.replied = true ↔
      (headers g.head g.buffer last g.sink).2.2.replies = 1 ∧
        (headers g.head g.buffer last g.sink).2.2.outcome .reply 0 = .ok ()
    rw [Link.outcome_congr hfaults, hcount, hrep]
    simp
  · exact emit_marked h.marked _

/-- Whatever an application does to its response and whichever sends fail. -/
theorem replying_persists : Persists fun g : Generator (ReplyState × Link) => Replying g.phase g.sink where
  change h _ _ := h
  reset h _ := h
  gather h _ _ := h
  commit h hp last := replying_commit h hp last
  emitBuffer {g} h hp last := replying_emit h nofun (spoken_persists.emitBuffer (g := g) h.spoken hp last)
  close {g} h hp :=
    have hc : Replying .completed g.sink :=
      ⟨⟨h.spoken.heard, h.spoken.once, nofun⟩, fun _ => h.attempted (by rw [hp]; exact nofun), h.replied, h.marked⟩
    replying_emit hc nofun (spoken_persists.close (g := g) h.spoken hp)
  aside {g} h e he :=
    have hk : e.kind? ≠ some .headers := by rw [he]; exact nofun
    replying_emit h hk (spoken_persists.aside (g := g) h.spoken e he)

theorem andThen_close_closes {r : Outcome EngineError (Generator (ReplyState × Link))}
    (hok : (r.andThen close).1 = .ok ()) (hr : (r.andThen close).2.sink.1.replied = true) :
    (r.andThen close).2.sink.1.closed = true := by
  obtain ⟨e | _, k⟩ := r
  · cases hok
  · exact finish_closes hok hr

/-- The completion that reaches the end of a response leaves its sink closed, if it has replied. -/
theorem complete_closes (hc : g.isComplete = false) (hok : g.complete.1 = .ok ())
    (hr : g.complete.2.sink.1.replied = true) : g.complete.2.sink.1.closed = true := by
  rcases complete_cases g with hp | hp | ⟨hp, hb⟩ | ⟨hp, hb⟩
  · simp [isComplete, hp] at hc
  · rw [complete_opened hp] at hok hr ⊢
    exact andThen_close_closes hok hr
  · rw [complete_drained hp hb] at hok hr ⊢
    exact finish_closes hok hr
  · rw [complete_left hp hb] at hok hr ⊢
    exact andThen_close_closes hok hr

/-- While nothing is lost, every write before the completion succeeds. -/
theorem confirm_accept {octets accepted : Octets} (hf : Framed (g.mapSink overFaultless) accepted)
    {op : ResponseOp} (hu : (g.perform op).2.sink.2.Lossless) : confirm op g octets = accept op g octets := by
  cases op with
  | write data =>
    by_cases hp : g.phase = .completed
    · exact confirm_completed hp data octets
    · have hw := framed_carries.write hf hp data
      have hs : (g.write data).mapState (mapSink overFaultless) = (g.mapSink overFaultless).write data :=
        write_follows faultless_follows (Classical.not_not.mpr hu)
      have hok : (g.write data).1 = .ok () := (congrArg Prod.fst hs).trans hw.1
      exact confirm_write hok (by simpa [isComplete] using hp) octets
  | _ => rfl

/-- While nothing is lost, what was confirmed is what was accepted. -/
theorem confirmed_accepted {calls : List ResponseOp} (hd : ∀ c ∈ calls, c.isDirect = true)
    {accepted' : Octets} (hf : Framed (g.mapSink overFaultless) accepted')
    (hu : (run calls g).sink.2.Lossless) (octets : Octets) :
    confirmed calls g octets = accepted calls g octets := by
  induction calls generalizing g octets accepted' with
  | nil => rfl
  | cons c calls ih =>
    have hrest : ∀ o ∈ calls, o.isDirect = true := fun o ho => hd o (by simp [ho])
    have hstep : (g.perform c).2.sink.2.Lossless := lossless_of_moves (run_moves hrest _ octets) hu
    have hp := perform_follows faultless_follows (hd c (by simp)) (Classical.not_not.mpr hstep)
    have hs : (g.perform c).2.mapSink overFaultless = ((g.mapSink overFaultless).perform c).2 :=
      congrArg Prod.snd hp
    have hf' := framed_carries.perform hf c fun ha => framed_aside hf ha
    rw [← hs] at hf'
    rw [confirmed, Generator.accepted, confirm_accept hf hstep]
    exact ih hrest hf' hu _

/-- Over a run in which nothing is lost, completing leaves one reply, a closing frame last and the octets of
all writes that succeeded. -/
theorem complete_lossless (hf : Framed (g.mapSink overFaultless) []) {calls : List ResponseOp}
    (hd : ∀ c ∈ calls, c.isDirect = true) (hu : (run calls g).complete.2.sink.2.Lossless) :
    (run calls g).complete.2.sink.2.sent.countP OutFrame.isReply = 1 ∧
    (∃ frames last, (run calls g).complete.2.sink.2.sent = frames ++ [last] ∧ last.closes = true) ∧
    payload (run calls g).complete.2.sink.2.sent = confirmed calls g [] := by
  have hm : Moves (run calls g, []) ((run calls g).complete.2, []) := complete_moves
  have hrun : (run calls g).sink.2.Lossless := lossless_of_moves hm hu
  obtain ⟨hsame, hacc⟩ := run_follows faultless_follows hd (Classical.not_not.mpr hrun) []
  have hcomplete := complete_follows faultless_follows (Classical.not_not.mpr hu)
  obtain ⟨hok, hend⟩ := framed_carries.complete_accept (framed_run hf calls)
  have hp := complete_completed hok
  rw [← hsame, ← hcomplete] at hend hp
  have hv := hend.conveyed
  obtain ⟨frames, last, hs, hl, _⟩ := conveyed_closed hv hp
  have hpay := conveyed_payload hv
  rw [conveyed_buffer hv hp, List.append_nil, ← hacc, ← confirmed_accepted hd hf hrun] at hpay
  exact ⟨conveyed_reply hv hp, ⟨frames, last, hs, hl⟩, hpay⟩

/-- Over a link on which any sends may fail, with the application free to go on after a failure: the data
frames carry octets of writes that succeeded since the last reset, in their order. When completing a response
succeeds, one reply was sent unless the attempt at it failed; if it was sent, and no completion had come to
the end before, the last frame has the close mark; and if no send had failed before, the data frames carry
the octets of all writes that succeeded. A call that succeeds loses nothing, so the first loss is reported by
the call in which it happens. -/
theorem completion_told (stream : Nat) (version : Version) (faults : List (Fault LinkCall StreamError))
    (capacity : Nat) (omitBody : Bool) (ops : List ResponseOp) :
    let start : Generator (ReplyState × Link) :=
      { Generator.new (({ version := version } : ReplyState), ({ stream := stream, faults := faults } : Link))
          capacity with omitBody := omitBody }
    let calls := runCalls ops start
    let g := run ops start
    let l := g.complete.2.sink.2
    (payload l.sent).Sublist (confirmed calls start []) ∧
    (g.complete.1 = .ok () →
      (l.sent.countP OutFrame.isReply = 1 ↔ l.outcome .reply 0 = .ok ()) ∧
      (l.outcome .reply 0 = .ok () → g.isComplete = false →
        ∃ frames last, l.sent = frames ++ [last] ∧ last.closes = true) ∧
      (g.sink.2.Lossless → l.sent.countP OutFrame.isReply = 1 ∧
        (∃ frames last, l.sent = frames ++ [last] ∧ last.closes = true) ∧
        payload l.sent = confirmed calls start [])) ∧
    (∀ before c after, calls = before ++ c :: after → (run before start).sink.2.Lossless →
      ((run before start).perform c).1 = .ok () → ((run before start).perform c).2.sink.2.Lossless) := by
  intro start calls g l
  have hd : ∀ c ∈ calls, c.isDirect = true := direct_runCalls ops start
  have hstart : Replying start.phase start.sink :=
    ⟨spoken_new rfl rfl rfl rfl, fun h => absurd rfl h, by simp [start, Generator.new], rfl⟩
  have hnew : Delivered start [] := ⟨[], rfl, List.Sublist.refl _, fun _ => rfl⟩
  have hsent : Delivered g (confirmed calls start []) := by
    have hr := run_delivered hd hnew
    rwa [run_runCalls] at hr
  have hdelivered : Delivered g.complete.2 (confirmed calls start []) := delivered_moves complete_moves hsent
  have hg : Replying g.complete.2.phase g.complete.2.sink :=
    replying_persists.complete (replying_persists.run hstart ops)
  refine ⟨delivered_payload hdelivered, ?_, ?_⟩
  · intro hok
    have hp : g.complete.2.phase ≠ .opened := by
      rw [complete_completed hok]
      exact nofun
    refine ⟨replying_reply_iff hg hp, fun hr hc => ?_, fun hl => ?_⟩
    · have hrep : g.complete.2.sink.1.replied = true := hg.replied.mpr ⟨hg.attempted hp, hr⟩
      exact replying_closed hg (complete_closes hc hok hrep)
    · have hu : l.Lossless := complete_taken (P := fun x => x.2.Lossless) (fun h ho => emit_lossless ho h) hl hok
      have hf : Framed (start.mapSink overFaultless) [] := framed_new rfl (by simp [Link.Sends, Link.faultless]) rfl capacity omitBody
      have hrun : run calls start = g := run_runCalls ops start
      have hend := complete_lossless hf hd (by rw [hrun]; exact hu)
      rwa [hrun] at hend
  · intro before c after hs hl hok
    exact perform_taken (P := fun x => x.2.Lossless) (fun h ho => emit_lossless ho h) (hd c (by simp [hs])) hl hok

/-- Two data frames, and a fault that only a third one would meet. -/
theorem streamed_completion_told :
    let faults : List (Fault LinkCall StreamError) := [{ on := .data, nth := 2, error := .transport "lost" }]
    let start : Generator (ReplyState × Link) :=
      Generator.new (({ version := .http11 } : ReplyState), ({ stream := 7, faults := faults } : Link)) 16
    let ops : List ResponseOp := [.write [1, 2], .flush, .write [3]]
    let g := run ops start
    let l := g.complete.2.sink.2
    g.complete.1 = .ok () ∧ l.outcome .reply 0 = .ok () ∧ g.isComplete = false ∧ g.sink.2.Lossless ∧
      l.sent.countP OutFrame.isReply = 1 ∧ (∃ frames last, l.sent = frames ++ [last] ∧ last.closes = true) ∧
      payload l.sent = [1, 2, 3] := by
  intro faults start ops g l
  have hok : g.complete.1 = .ok () := rfl
  have hl : g.sink.2.Lossless := by
    intro call hc n hn
    cases call with
    | reply =>
      have hz : n = 0 := Nat.lt_one_iff.mp hn
      rw [hz]
      rfl
    | data =>
      have hz : n = 0 := Nat.lt_one_iff.mp hn
      rw [hz]
      rfl
    | pull => cases hc
    | terminate => cases hc
  obtain ⟨honce, hlast, hpayload⟩ := ((completion_told 7 .http11 faults 16 false ops).2.1 hok).2.2 hl
  exact ⟨hok, rfl, rfl, hl, honce, hlast, hpayload⟩

/-- A reply that is lost at a flush: completing succeeds afterwards, and no frame was ever sent. -/
theorem lost_reply_completed :
    let link : Link := { faults := [{ on := .reply, nth := 0, error := .transport "lost" }] }
    let start : Generator (ReplyState × Link) := Generator.new (({ version := .http11 } : ReplyState), link) 16
    let ops : List ResponseOp := [.write [97, 98, 99], .flush]
    let g := run ops start
    g.complete.1 = .ok () ∧ g.complete.2.sink.2.sent = [] ∧
      confirmed (runCalls ops start) start [] = [97, 98, 99] :=
  ⟨rfl, rfl, rfl⟩

end Generator

end FramedHttp
