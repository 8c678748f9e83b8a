import FramedHttp.Proofs.Stream.Conservation

/-!
# The end of a body

A reader that was told the end of the body is told so again, as long as the channel accepts no octets. It
accepts none once the stream has ended. An end mark on a body frame alone does not keep it from accepting
the octets of later frames, and those are what the reader gets then.
-/

set_option autoImplicit false

namespace FramedHttp

open Content

variable {ε : Type}

/-- The unread octets, if there are any. -/
def Content.Buffer.unread? (b : Buffer) : Option Octets :=
  if b.isDrained then none else some b.fragment

/-- What is unread is told as it is, and it is never empty. -/
theorem Content.Buffer.unread?_eq_some_iff {b : Buffer} {octets : Octets} :
    b.unread? = some octets ↔ octets ≠ [] ∧ b.fragment = octets := by
  unfold Buffer.unread?
  by_cases hd : b.isDrained = true
  · have hf : b.fragment = [] := Buffer.isDrained_iff.mp hd
    rw [if_pos hd, hf]
    simp [eq_comm]
  · have hf : b.fragment ≠ [] := fun hf => hd (Buffer.isDrained_iff.mpr hf)
    rw [if_neg hd, Option.some.injEq]
    exact ⟨fun h => ⟨h ▸ hf, h⟩, And.right⟩

theorem Content.Buffer.unread?_eq_none_iff {b : Buffer} : b.unread? = none ↔ b.fragment = [] := by
  simp [Buffer.unread?, Buffer.isDrained_iff]

namespace Stream

/-- A body that a reader may wait for and that has its end mark: the reader is not kept waiting any more. -/
def Marked (s : Stream ε) : Prop :=
  s.pending = false ∧ s.state.canBlock = true ∧ s.buffer.complete = true

variable [Engine ε]

/-- A stage that was reached stays reached. -/
theorem stage_kept (n : Nat) : Kept fun s : Stream ε => s.pending = false ∧ n ≤ s.state.number where
  settled h := h.1
  move h hm := ⟨move_pending hm, Nat.le_trans h.2 (move_number hm)⟩
  release h _ _ _ := h
  discard h := h
  pull h := h
  terminate h := h

/-- Past the header section, a reader may always wait. -/
theorem canBlock_kept : Kept fun s : Stream ε => s.pending = false ∧ s.state.canBlock = true := by
  simpa only [Lifecycle.canBlock_iff] using stage_kept (ε := ε) Lifecycle.headersComplete.number

/-- A stream that has ended stays so. -/
theorem final_kept : Kept fun s : Stream ε => s.pending = false ∧ s.state = .final := by
  simpa only [Lifecycle.final_iff] using stage_kept (ε := ε) Lifecycle.final.number

section Accepted

variable {s : Stream ε}

theorem atChannel_final (hs : s.state = .final) : s.atChannel = none := by
  cases hc : s.atChannel with
  | none => rfl
  | some t =>
    obtain ⟨_, he, _, ht⟩ := atChannel_eq_some_iff.mp hc
    rw [onHeadersEnd_past (.inr (.inr hs))] at he
    have hst : s = t := congrArg Prod.snd he
    rw [← hst, hs] at ht
    cases ht

/-- A call that brings no body octets adds none. -/
theorem accepted_empty {c : StreamCall} (hc : ∀ data last, c = .receive (.body data last) → data = []) :
    s.accepted c = [] := by
  unfold accepted
  split
  · next data last =>
    split
    · rfl
    · split
      · exact hc data last rfl
      · rfl
  · rfl

/-- Where every call finds a stream for which nothing is noted, nothing is noted. -/
theorem record_nil {α : Type} {note : StreamCall → Stream ε → List α} {P : Stream ε → Prop} (hP : Kept P)
    {calls : List StreamCall} (hn : ∀ c ∈ calls, ∀ {t : Stream ε}, P t → note c t = []) (hs : P s) :
    s.record note calls = [] := by
  induction calls generalizing s with
  | nil => rfl
  | cons c calls ih =>
    rw [record, hn c (by simp) hs, List.nil_append]
    exact ih (fun d hd => hn d (by simp [hd])) (hP.call hs c)

theorem record_accepted_empty (hp : s.pending = false) {calls : List StreamCall}
    (hc : ∀ data last, .receive (.body data last) ∈ calls → data = []) : s.record accepted calls = [] := by
  apply record_nil settled_kept _ hp
  intro c hm t _
  apply accepted_empty
  rintro data last rfl
  exact hc data last hm

/-- After its end a stream accepts no octets. -/
theorem record_accepted_final (hp : s.pending = false) (hs : s.state = .final) (calls : List StreamCall) :
    s.record accepted calls = [] := by
  apply record_nil final_kept _ ⟨hp, hs⟩
  intro c _ t ht
  unfold accepted
  split
  · rw [atChannel_final ht.2]
  · rfl

end Accepted

section Marked

variable (hε : Engine.Consumes ε) {s : Stream ε}
include hε

theorem marked_replay (h : Marked s) (calls : List StreamCall) : Marked (s.replay calls) := by
  have hb := canBlock_kept.replay ⟨h.1, h.2.1⟩ calls
  have hc := (complete_kept hε).replay ⟨h.1, h.2.2⟩ calls
  exact ⟨hb.1, hb.2, hc.2⟩

/-- A body that was given up has nothing unread. -/
theorem given_up_kept : Kept fun s : Stream ε =>
    s.pending = false ∧ (s.buffer.discarding = true → s.buffer.fragment = []) := by
  apply buffer_kept (R := fun b => b.discarding = true → b.fragment = []) hε
  · intro b c hb hc hd
    exact Buffer.released_nil hc (hb ((Buffer.released_discarding hc).symm.trans hd))
  · intro b c data last hb hc hd
    obtain ⟨_, rfl⟩ := Buffer.fill_ok_iff.mp hc
    exact if_pos hd
  · intro b hb
    exact hb
  · intro b _ _
    rfl

/-- Where nothing is unread and nothing is accepted, nothing is unread afterwards. -/
theorem unread_replay (hp : s.pending = false) (hf : s.buffer.fragment = []) {calls : List StreamCall}
    (ha : s.record accepted calls = []) : (s.replay calls).buffer.fragment = [] := by
  cases hd : (s.replay calls).buffer.discarding with
  | true => exact ((given_up_kept hε).replay (s := s) ⟨hp, fun _ => hf⟩ calls).2 hd
  | false =>
    have hb := balance_replay hε hp calls hd
    rw [hf, ha] at hb
    exact (List.append_eq_nil_iff.mp hb).2

end Marked

end Stream

open FramedHttp.Stream

namespace Session

variable [Engine ε] {s : Session ε}

section Looking

omit [Engine ε]

theorem look_ended_iff : s.look = .ended ↔
    s.stream.state.canBlock = true ∧ s.buffer.complete = true ∧ s.buffer.fragment = [] := by
  unfold look
  by_cases hc : s.stream.state.canBlock = true
  · by_cases hd : s.buffer.fragment = []
    · have hd' : s.buffer.isDrained = true := Buffer.isDrained_iff.mpr hd
      cases s.buffer.complete <;> simp [hc, hd, hd']
    · have hd' : ¬ s.buffer.isDrained = true := fun h => hd (Buffer.isDrained_iff.mp h)
      simp [hc, hd, hd']
  · simp [hc]

theorem look_marked (h : Marked s.stream) :
    s.look = if s.buffer.isDrained then .ended else .content s.buffer.fragment := by
  have hk : s.buffer.complete = true := h.2.2
  rw [look, if_pos h.2.1, if_pos hk]

/-- What a reader has found that gets this answer. -/
def finding : Option Octets → Await StreamError
  | none => .ended
  | some octets => .content octets

theorem settle_ok {maxIdle : Duration} {x : Await StreamError × Session ε} {answer : Option Octets}
    (h : (settle maxIdle x).1 = .ok answer) : x.1 = finding answer ∧ (settle maxIdle x).2 = x.2 := by
  obtain ⟨_ | _ | _ | _, s⟩ := x
  · cases h
    exact ⟨rfl, rfl⟩
  · cases h
    exact ⟨rfl, rfl⟩
  · cases h
  · cases h

end Looking

/-- What awaits ends with is what there is to find, unless a delivery fails. -/
theorem await_look (waits : Bool) (s : Session ε) :
    (s.await waits).1 = (s.await waits).2.look ∨ ∃ e, (s.await waits).1 = .failed e := by
  unfold await
  cases hl : s.look with
  | waiting =>
    cases waits with
    | true => exact .inl hl.symm
    | false =>
      rcases s.pull with ⟨e | _, t⟩
      · exact .inr ⟨e, rfl⟩
      · exact .inl rfl
  | _ => exact .inl hl.symm

/-- A reader that gets an answer found it before or after what came while it waited. -/
theorem blockDuring_ok {arrive : Session ε → Session ε} {maxIdle : Duration} {answer : Option Octets}
    (h : (s.blockDuring arrive maxIdle).1 = .ok answer) :
    (s.blockDuring arrive maxIdle).2.look = finding answer ∧
    ((s.blockDuring arrive maxIdle).2 = (s.await false).2 ∨
      (s.blockDuring arrive maxIdle).2 = arrive (s.await false).2) := by
  have ha : (s.await false).1 = finding answer → (s.await false).2.look = finding answer := by
    intro he
    rcases await_look false s with hl | ⟨e, hf⟩
    · exact hl.symm.trans he
    · cases answer <;> cases hf.symm.trans he
  unfold blockDuring at h ⊢
  split at h
  · next t ht =>
    obtain ⟨he, hs⟩ := settle_ok h
    rw [ht]
    dsimp only at he hs ⊢
    rw [hs]
    exact ⟨he, .inr rfl⟩
  · obtain ⟨he, hs⟩ := settle_ok h
    rw [hs]
    exact ⟨ha he, .inl rfl⟩

omit [Engine ε] in
theorem ofContent_eq_content {r : Except StreamError (Option Octets)} {octets : Option Octets} :
    SessionResult.ofContent r = .content octets ↔ r = .ok octets := by
  cases r <;> simp [SessionResult.ofContent]

/-- Who was told the end finds an end mark and nothing unread. -/
theorem told_marked {during : List SessionOp} {maxIdle : Duration} (hp : s.stream.pending = false)
    (h : (s.blockDuring (run during) maxIdle).1 = .ok none) :
    let t := (s.blockDuring (run during) maxIdle).2
    Marked t.stream ∧ t.stream.buffer.fragment = [] := by
  intro t
  have ha : (s.await false).2.stream.pending = false := by
    rw [await_replay]
    exact settled_kept.replay hp _
  obtain ⟨hl, ht⟩ := blockDuring_ok h
  obtain ⟨hb, hk, hf⟩ := look_ended_iff.mp hl
  have hpt : t.stream.pending = false := by
    rcases ht with ht | ht
    · rw [show t = _ from ht]
      exact ha
    · rw [show t = _ from ht]
      exact run_keeps settled_kept during ha
  exact ⟨⟨hpt, hb, hk⟩, hf⟩

/-- With the end mark, a wait is over at once and changes nothing. -/
theorem blockDuring_marked (h : Marked s.stream) (arrive : Session ε → Session ε) (maxIdle : Duration) :
    s.blockDuring arrive maxIdle = (.ok s.buffer.unread?, s) := by
  rw [blockDuring, await, look_marked h, Buffer.unread?]
  by_cases hd : s.buffer.isDrained = true
  · rw [if_pos hd, if_pos hd]
    rfl
  · rw [if_neg hd, if_neg hd]
    rfl

/-- With the end mark and nothing unread, a read brings no octets and changes nothing. -/
theorem read_marked (h : Marked s.stream) (hf : s.buffer.fragment = []) (waits : Bool) (wanted : Option Nat) :
    Content.read waits wanted s = (.octets [], s) := by
  have hw : Source.await waits s = (Await.ended, s) := by
    change ((s.await waits).1.mapError StreamError.toEngine, (s.await waits).2) = _
    rw [await, look_marked h, if_pos (Buffer.isDrained_iff.mpr hf)]
    rfl
  rw [Content.read, hw]
  split <;> rfl

/-- A reader that was told the end of the body is never kept waiting again, and what it gets then is what the
channel accepted since: as long as that is nothing, it is told the end again. Nothing is accepted once the
stream has ended, nor from body frames without octets. -/
theorem told_end_again (hε : Engine.Consumes ε) (settings : Settings) (link : Link) (engine : ε)
    (inbox : List InFrame) (pressure : Bool) (ops during more : List SessionOp) (maxIdle : Duration) :
    let start : Session ε := { stream := .new settings link engine, inbox := inbox, pressure := pressure }
    let found := (run ops start).blockDuring (run during) maxIdle
    let told := found.2
    let calls := runCalls more told
    let s := run more told
    found.1 = .ok none →
      (∀ arrive idle, s.blockDuring arrive idle = (.ok s.buffer.unread?, s)) ∧
      (s.buffer.discarding = false →
        told.stream.record released calls ++ s.buffer.fragment = told.stream.record accepted calls) ∧
      (told.stream.record accepted calls = [] →
        s.buffer.unread? = none ∧ ∀ waits wanted, Content.read waits wanted s = (.octets [], s)) ∧
      (told.stream.state = .final → told.stream.record accepted calls = []) ∧
      ((∀ data last, .receive (.body data last) ∈ calls → data = []) → told.stream.record accepted calls = []) := by
  intro start found told calls s h
  have hp : (run ops start).stream.pending = false := run_keeps settled_kept ops rfl
  obtain ⟨hm, hf⟩ := told_marked hp h
  have hs : s.stream = told.stream.replay calls := run_replay more told
  have hms : Marked s.stream := hs ▸ marked_replay hε hm calls
  constructor
  · exact fun arrive idle => blockDuring_marked hms arrive idle
  constructor
  · intro hd
    have hb := balance_replay hε hm.1 calls (hs ▸ hd)
    rw [hf, List.nil_append, ← hs] at hb
    exact hb
  constructor
  · intro ha
    have hu : s.buffer.fragment = [] := by
      rw [buffer, hs]
      exact unread_replay hε hm.1 hf ha
    exact ⟨if_pos (Buffer.isDrained_iff.mpr hu), read_marked hms hu⟩
  constructor
  · exact fun hs => record_accepted_final hm.1 hs calls
  · exact record_accepted_empty hm.1

/-- A body frame that comes after the end of its stream is refused, and the reader is told the end again. -/
theorem refused_after_end :
    let first := Headers.ofPairs [("method", "POST"), ("url", "/a"), ("version", "HTTP/1.1")]
    let ops : List SessionOp := [.receive (.metadata first), .receive (.body [1] true), .consume 1, .receive .streamEnd]
    let more : List SessionOp := [.receive (.body [2] false)]
    let found := (run ops ({ stream := .new {} {} {} } : Session Recorder)).blockDuring (run []) (.seconds 1)
    let s := run more found.2
    Engine.Consumes Recorder ∧ found.1 = .ok none ∧ found.2.stream.state = .final ∧
      found.2.stream.record accepted (runCalls more found.2) = [] ∧
      s.block (.seconds 1) = (.ok none, s) ∧ Content.read false (some 8) s = (.octets [], s) := by
  intro first ops more
  dsimp only
  have hnone : ((run ops ({ stream := .new {} {} {} } : Session Recorder)).blockDuring (run []) (.seconds 1)).1 =
      .ok none := ofContent_eq_content.mp (by decide +kernel)
  obtain ⟨hblock, _, hread, hend, _⟩ :=
    told_end_again Recorder.consumes_only {} {} {} [] true ops [] more (.seconds 1) hnone
  have haccepted := hend (by decide +kernel)
  obtain ⟨hunread, hread⟩ := hread haccepted
  have hagain := hblock id (.seconds 1)
  rw [hunread] at hagain
  exact ⟨Recorder.consumes_only, hnone, by decide +kernel, haccepted, hagain, hread false (some 8)⟩

/-- An end mark on a body frame does not end the stream: the next frame is accepted, and a reader that was
told the end gets its octets. -/
theorem refilled_after_end :
    let first := Headers.ofPairs [("method", "POST"), ("url", "/a"), ("version", "HTTP/1.1")]
    let start : Session Recorder := { stream := .new {} {} {} }
    let ops : List SessionOp := [.receive (.metadata first), .receive (.body [97] true), .consume 1]
    let found := (run ops start).perform (.block (.seconds 1))
    let next := found.2.perform (.receive (.body [98] false))
    (∀ op ∈ ops, op.discards = false) ∧ found.1 = .content none ∧ next.1 = .done ∧
      (next.2.perform (.block (.seconds 1))).1 = .content (some [98]) ∧
      (next.2.perform (.body (.seconds 1) (.read 8))).1 = .body (.octets [98]) := by
  decide +kernel

end Session

end FramedHttp
