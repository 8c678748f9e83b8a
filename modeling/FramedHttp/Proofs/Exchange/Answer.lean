import FramedHttp.Proofs.Exchange.Header

/-!
# The answer to a request

However the deliveries of frames and the steps of the worker take turns, when neither side can go on the
whole request was taken and the stream has been answered once, up to the frame with the close mark. Nobody
has waited in the meantime, so nothing was terminated.
-/

set_option autoImplicit false

namespace FramedHttp

open Content Generator

/-- The turns of a pump and a worker. In the others the session calls the stream past its inbox. -/
def Turn.isInner : Turn → Bool
  | .deliver | .work | .expire => true
  | _ => false

namespace Stream

variable {s : Stream (Exchange ReplyState)} {inbox : List InFrame}

theorem standing_quiet (h : Standing s inbox) : s.link.Quiet := by
  cases h with
  | fresh h => exact h.quiet
  | assembling h => exact h.quiet
  | rejected h => exact h.quiet
  | begun _ hs => exact hs.quiet

/-- One reply, and the close mark on the last frame alone. -/
def Closed (frames : List OutFrame) : Prop :=
  frames.countP OutFrame.isReply = 1 ∧
    ∃ before last, frames = before ++ [last] ∧ last.closes = true ∧ ∀ f ∈ before, f.closes = false

theorem answered_closed (h : Answered s) : Closed s.link.sent := by
  obtain ⟨headers, hs⟩ := h.sent
  rw [hs]
  exact ⟨rfl, [], _, rfl, rfl, by simp⟩

end Stream

open FramedHttp.Stream

namespace Session

/-- A session under back-pressure on which no delivery has failed. -/
structure Steady (s : Served) : Prop where
  pressure : s.pressure = true
  failures : s.failures = []
  standing : Standing s.stream s.inbox

variable {s : Served} {w : Worker ReplyState}

theorem steady_new (settings : Settings) {link : Link} (hq : link.Quiet) (hs : link.sent = [])
    {handler : Handler} (hh : handler.Returns) {frames : List InFrame} (hf : RequestFrames frames) :
    Steady ((Session.new settings link true handler).enqueue frames) where
  pressure := rfl
  failures := rfl
  standing := .fresh ⟨⟨rfl, rfl, hq, hs⟩, rfl, ⟨_, rfl, rfl⟩, rfl, rfl, hh⟩ hf

theorem steady_onDuty (h : Steady s) (hw : s.worker? = some w) : Worker.OnDuty (w, s) := by
  have hw' : s.stream.engine.worker = some w := hw
  rcases h.standing with ⟨hf, _⟩ | ⟨ha, _⟩ | ⟨ha, _, _⟩ | ⟨⟨ha, _⟩ | ⟨v, ha⟩, hs⟩
  · cases hf.idle.idle.symm.trans hw'
  · cases ha.prepared.idle.symm.trans hw'
  · cases ha.idle.symm.trans hw'
  · cases ha.idle.symm.trans hw'
  · cases ha.worker.symm.trans hw'
    exact { fed := ⟨hs, ha.taken, h.pressure, h.failures⟩, response := ha.response, due := ha.due }

theorem steady_withWorker {x : Worker ReplyState × Served} (h : Worker.OnDuty x) : Steady (withWorker x) where
  pressure := h.fed.pressure
  failures := h.fed.failures
  standing := by
    have hs := h.fed.streaming
    exact .begun (.attended x.1 ⟨h.fed.taken, rfl, h.response, h.due⟩)
      ⟨hs.accepted, hs.arriving, hs.dropped, hs.quiet⟩

theorem steady_deliver (h : Steady s) {r : Outcome StreamError Served} (hr : s.deliverNext = some r) :
    r.1 = .ok () ∧ Steady r.2 := by
  have hstand := h.standing
  unfold deliverNext at hr
  split at hr
  · cases hr
  · next frame rest hin =>
    rw [hin] at hstand
    split at hr
    · cases hr
    · next hh =>
      rw [h.pressure] at hh
      obtain ⟨t, ht, hnext⟩ := receive_standing hstand (Bool.eq_false_iff.mpr hh)
      rw [ht] at hr
      cases hr
      exact ⟨rfl, h.pressure, h.failures, hnext⟩

theorem steady_work (h : Steady s) {t : Served} (ht : s.work = some t) : Steady t := by
  unfold work at ht
  split at ht
  · cases ht
  · next w hw =>
    obtain ⟨y, hy, rfl⟩ := Option.map_eq_some_iff.mp ht
    exact steady_withWorker (Worker.step_onDuty (steady_onDuty h hw) hy)

theorem steady_not_waiting (h : Steady s) : s.isWorkerWaiting = false := by
  unfold isWorkerWaiting
  split
  · rfl
  · next w hw => exact Worker.onDuty_not_waiting (steady_onDuty h hw)

theorem steady_turn (h : Steady s) {t : Turn} (ht : t.isInner = true) : Steady (s.turn t) := by
  cases t with
  | deliver =>
    change Steady ((s.deliverNext.map Prod.snd).getD s)
    cases hr : s.deliverNext with
    | none => exact h
    | some r => exact (steady_deliver h hr).2
  | work =>
    change Steady (s.work.getD s)
    cases hr : s.work with
    | none => exact h
    | some t => exact steady_work h hr
  | expire =>
    change Steady (if s.isWorkerWaiting then s.expireWorker else s)
    rw [steady_not_waiting h]
    exact h
  | receive frame => cases ht
  | dispatch => cases ht

theorem steady_turns (h : Steady s) {ts : List Turn} (ht : ∀ t ∈ ts, t.isInner = true) :
    Steady (turns ts s) := by
  induction ts generalizing s with
  | nil => exact h
  | cons t ts ih => exact ih (steady_turn h (ht t (by simp))) fun u hu => ht u (by simp [hu])

theorem steady_finished (h : Steady s) (hw : s.worker? = some w) (hn : s.work = none) :
    ∃ outcome, w.stage = .finished outcome := by
  have hstep : Worker.step (w, s) = none := by simpa [work, hw] using hn
  exact Worker.step_none (steady_onDuty h hw) hstep

/-- A worker that has finished has given its body up, so nothing is held back. -/
theorem steady_drained (h : Steady s) (hn : s.work = none) : s.buffer.fragment = [] := by
  rcases h.standing with ⟨hf, _⟩ | ⟨ha, _⟩ | ⟨ha, _, _⟩ | ⟨⟨ha, _⟩ | ⟨w, ha⟩, hs⟩
  · exact congrArg Buffer.fragment hf.buffer
  · exact congrArg Buffer.fragment ha.buffer
  · exact ha.drained
  · exact ha.drained
  · obtain ⟨outcome, hstage⟩ := steady_finished h ha.worker hn
    have hdue := ha.due
    rw [hstage] at hdue
    exact hs.dropped hdue.2

theorem steady_emptied (h : Steady s) (hd : s.deliverNext = none) (hn : s.work = none) : s.inbox = [] := by
  -- Only a body frame is ever held back, and only while the buffer is not drained.
  have hb : s.stream.buffer.isDrained = true := Buffer.isDrained_iff.mpr (steady_drained h hn)
  unfold deliverNext at hd
  split at hd
  · assumption
  · next frame rest hin =>
    have hh : holds s.pressure frame s.stream = false := by cases frame <;> simp [holds, hb]
    rw [if_neg (by simp [hh])] at hd
    cases hd

/-- Where neither side can go on, the stream is final and answered. -/
theorem steady_answered (h : Steady s) (hd : s.deliverNext = none) (hn : s.work = none) :
    s.stream.state = .final ∧ Closed s.link.sent := by
  have hstand := h.standing
  rw [steady_emptied h hd hn] at hstand
  rcases hstand with ⟨_, hf⟩ | ⟨_, hf⟩ | ⟨ha, _, hs⟩ | ⟨⟨ha, _⟩ | ⟨w, ha⟩, hs⟩
  · cases hf
  · rcases hf with _ | _ | hf
    cases hf
  · exact ⟨hs, answered_closed ha⟩
  · exact ⟨(arriving_nil hs.arriving).1, answered_closed ha⟩
  · obtain ⟨outcome, hstage⟩ := steady_finished h ha.worker hn
    have hdue := ha.due
    rw [hstage] at hdue
    obtain ⟨octets, hr⟩ := ha.response
    exact ⟨(arriving_nil hs.arriving).1, conveyed_reply hr.conveyed hdue.1, conveyed_closed hr.conveyed hdue.1⟩

/-- A request whose frames are queued, and whose handler returns, is taken to its end and answered once,
whatever the order of turns. No delivery fails, nothing is terminated, and when neither side can go on, the
inbox is empty, the stream is final, the worker has finished, and one reply was sent, with the close mark on
the last frame alone. -/
theorem answered_once (settings : Settings) {link : Link} (hq : link.Quiet) (hs : link.sent = [])
    {handler : Handler} (hh : handler.Returns) {frames : List InFrame} (hf : RequestFrames frames)
    {ts : List Turn} (ht : ∀ t ∈ ts, t.isInner = true) :
    let s := turns ts ((Session.new settings link true handler).enqueue frames)
    s.failures = [] ∧ s.link.terminations = 0 ∧
    (s.deliverNext = none → s.work = none →
      s.inbox = [] ∧ s.stream.state = .final ∧ (∀ w, s.worker? = some w → w.isFinished = true) ∧
      s.link.sent.countP OutFrame.isReply = 1 ∧
      ∃ before last, s.link.sent = before ++ [last] ∧ last.closes = true ∧
        ∀ f ∈ before, f.closes = false) := by
  intro s
  have h : Steady s := steady_turns (steady_new settings hq hs hh hf) ht
  constructor
  · exact h.failures
  constructor
  · exact (standing_quiet h.standing).terminations
  intro hd hn
  obtain ⟨hfinal, hclosed⟩ := steady_answered h hd hn
  have hfinished : ∀ w, s.worker? = some w → w.isFinished = true := by
    intro w hw
    obtain ⟨outcome, hstage⟩ := steady_finished h hw hn
    simp [Worker.isFinished, hstage]
  exact ⟨steady_emptied h hd hn, hfinal, hfinished, hclosed⟩

/-- A body in two frames that is echoed, with the second frame delivered late. -/
theorem echo_answered_once :
    let first := Headers.ofPairs [("method", "POST"), ("url", "/a"), ("version", "HTTP/1.1")]
    let frames : List InFrame :=
      [.metadata first, .body [1, 2] false, .body [3] true, .streamEnd]
    let ts : List Turn :=
      [.deliver, .deliver, .work, .work, .deliver, .expire, .work, .work, .work, .work, .work, .work,
        .deliver]
    let s := turns ts ((Session.new {} {} true [{ instruction := .echo }]).enqueue frames)
    s.deliverNext = none ∧ s.work = none ∧ s.failures = [] ∧ s.link.terminations = 0 ∧ s.inbox = [] ∧
      s.stream.state = .final ∧ s.link.sent.countP OutFrame.isReply = 1 ∧
      ∃ before last, s.link.sent = before ++ [last] ∧ last.closes = true ∧
        ∀ f ∈ before, f.closes = false := by
  intro first frames ts s
  have hline : RequestLine.ofHeaders first = .ok ⟨"POST", "/a", "HTTP/1.1"⟩ := by
    simp only [first]
    rfl
  have hf : RequestFrames frames := by
    have hbody : HeaderFrames [.body [1, 2] false, .body [3] true, .streamEnd] := .body (.more _ (.last _))
    apply RequestFrames.request rfl _ hbody
    intro line hl
    cases hline.symm.trans hl
    decide
  have hh : Handler.Returns [{ instruction := .echo }] := by
    intro line hl
    rw [List.mem_singleton.mp hl]
    nofun
  have hq : Link.Quiet {} := ⟨by simp, rfl⟩
  have hd : s.deliverNext = none := by
    simp only [s, ts, frames, first]
    exact Option.isNone_iff_eq_none.mp (by decide +kernel)
  have hn : s.work = none := by
    simp only [s, ts, frames, first]
    exact Option.isNone_iff_eq_none.mp (by decide +kernel)
  simp only [s] at hd hn ⊢
  obtain ⟨hfail, hterm, hdone⟩ := answered_once {} hq rfl hh hf (by decide : ∀ t ∈ ts, t.isInner = true)
  obtain ⟨hin, hstate, _, hclosed⟩ := hdone hd hn
  exact ⟨hd, hn, hfail, hterm, hin, hstate, hclosed⟩

end Session

end FramedHttp
