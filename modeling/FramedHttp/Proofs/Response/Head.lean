import FramedHttp.Proofs.Response.HandOver
import Mathlib.Data.List.DropRight

/-!
# The head of a response

A response may be committed inside any write, flush or completion. As long as none of them does so, its head
is what was set since the last reset, and nothing but interim responses and raw octets has reached its sink;
what was set or written before a reset is forgotten. The commit hands over the head as it is then, and from
there on nothing changes it.
-/

set_option autoImplicit false

namespace FramedHttp

def Phase.number : Phase → Nat
  | .opened => 0
  | .committed => 1
  | .completed => 2

theorem Phase.opened_iff {p : Phase} : p = .opened ↔ ¬ committed.number ≤ p.number := by
  cases p <;> decide

/-- The operations after the last reset. -/
def sinceReset (ops : List ResponseOp) : List ResponseOp :=
  ops.rtakeWhile fun op => op ≠ .reset

/-- The head that operations on an open response describe: the usual one, with what they set since the last
reset, one after the other. -/
def ResponseHead.drafted (ops : List ResponseOp) : ResponseHead :=
  (sinceReset ops).foldl (fun head op => op.onHead head) {}

theorem ResponseHead.drafted_snoc (ops : List ResponseOp) (op : ResponseOp) :
    drafted (ops ++ [op]) = if op = .reset then {} else op.onHead (drafted ops) := by
  unfold drafted sinceReset
  by_cases h : op = .reset
  · rw [List.rtakeWhile_concat_neg _ _ _ (by simp [h]), if_pos h]
    rfl
  · rw [List.rtakeWhile_concat_pos _ _ _ (by simp [h]), if_neg h, List.foldl_append]
    rfl

/-- The headers that a sink was handed, whether or not it took them. -/
def Tapped.headings {σ : Type} (t : Tapped σ) : List Emission :=
  t.record.filter fun e => e.kind? = some .headers

variable {σ : Type} [Sink σ]

theorem Tapped.headings_headers (head : ResponseHead) (buffered : Octets) (last : Bool) (t : Tapped σ) :
    (Sink.emit (.headers head buffered last) t).2.headings = t.headings ++ [.headers head buffered last] := by
  simp [Sink.emit, headings, Emission.kind?]

theorem Tapped.headings_other {e : Emission} (he : e.kind? ≠ some .headers) (t : Tapped σ) :
    (Sink.emit e t).2.headings = t.headings := by
  simp [Sink.emit, headings, he]

/-- What an operation on an open response sends beside it, seen from the sink. -/
def ResponseOp.onSink (op : ResponseOp) (s : σ) : σ :=
  match op with
  | .informational code =>
    match Status.ofCode code with
    | .ok k => if k.isInformational then (Sink.emit (.informational k) s).2 else s
    | .error _ => s
  | .raw octets => (Sink.emit (.raw octets) s).2
  | _ => s

theorem ResponseOp.onSink_idle {op : ResponseOp} (h : op.isAside = false) (s : σ) : op.onSink s = s := by
  cases op <;> first | rfl | cases h

def onSinkAll (ops : List ResponseOp) (s : σ) : σ :=
  ops.foldl (fun s op => op.onSink s) s

/-- Only the operations beside the response reach its sink. -/
theorem onSinkAll_asides (ops : List ResponseOp) (s : σ) :
    onSinkAll (ops.filter ResponseOp.isAside) s = onSinkAll ops s := by
  induction ops generalizing s with
  | nil => rfl
  | cons op ops ih =>
    cases h : op.isAside with
    | true =>
      rw [List.filter_cons_of_pos h]
      exact ih _
    | false =>
      rw [List.filter_cons_of_neg (by simp [h])]
      change _ = onSinkAll ops (op.onSink s)
      rw [op.onSink_idle h]
      exact ih s

namespace Generator

variable {g : Generator σ}

/-- A response never returns to an earlier phase. -/
theorem phase_persists (n : Nat) : Persists fun g : Generator σ => n ≤ g.phase.number where
  change h _ _ := h
  reset h _ := h
  gather h _ _ := h
  commit h hp _ := by
    rw [hp] at h
    exact Nat.le_succ_of_le h
  emitBuffer h _ _ := h
  close h hp := by
    rw [hp] at h
    exact Nat.le_succ_of_le h
  aside h _ _ := h

theorem opened_of_run (ops : List ResponseOp) (h : (run ops g).phase = .opened) : g.phase = .opened := by
  rw [Phase.opened_iff] at h ⊢
  exact fun hc => h ((phase_persists _).run hc ops)

/-- The head of a response that was committed. -/
theorem head_persists (head : ResponseHead) :
    Persists fun g : Generator σ => g.phase ≠ .opened ∧ g.head = head where
  change h hp _ := absurd hp h.1
  reset h hp := absurd hp h.1
  gather h _ _ := h
  commit h hp _ := absurd hp h.1
  emitBuffer h _ _ := h
  close h _ := ⟨nofun, h.2⟩
  aside h _ _ := h

/-- The headers that the sink of a response was handed: none before the commit, and then the head once. -/
def Headed (g : Generator (Tapped σ)) : Prop :=
  (g.phase = .opened → g.sink.headings = []) ∧
  (g.phase ≠ .opened → ∃ buffered last, g.sink.headings = [.headers g.head buffered last])

theorem headed_emit {g : Generator (Tapped σ)} (h : Headed g) {e : Emission} (he : e.kind? ≠ some .headers) :
    Headed (g.emit e).2 := by
  have hs : (g.emit e).2.sink.headings = g.sink.headings := Tapped.headings_other he g.sink
  unfold Headed
  rw [hs]
  exact h

theorem headed_persists : Persists (Headed (σ := σ)) where
  change h hp _ := ⟨h.1, fun hn => absurd hp hn⟩
  reset h hp := ⟨h.1, fun hn => absurd hp hn⟩
  gather h _ _ := h
  commit {g} h hp last := by
    have hs : (g.commit last).2.sink.headings = g.sink.headings ++ [.headers g.head g.buffer last] :=
      Tapped.headings_headers g.head g.buffer last g.sink
    rw [h.1 hp] at hs
    exact ⟨nofun, fun _ => ⟨g.buffer, last, hs⟩⟩
  emitBuffer {g} h _ _ := headed_emit (g := { g with buffer := [] }) h nofun
  close {g} h hp := by
    have hc : Headed { g with phase := .completed } := ⟨nofun, fun _ => h.2 (by simp [hp])⟩
    exact headed_emit hc nofun
  aside h e he := headed_emit h (by simp [he])

section Operation

variable {op : ResponseOp}

/-- What is delivered from a response that stays open is nothing, and only its buffer changes. -/
theorem deliver_opened (hd : op.isDelivery = true) (h : (g.perform op).2.phase = .opened) :
    ∃ buffer, (g.perform op).2 = { g with buffer := buffer } := by
  have hdelivers : Delivers fun k : Generator σ => k.phase = .opened → ∃ buffer, k = { g with buffer := buffer } := {
    gather := fun hk _ data ho => by
      obtain ⟨buffer, hk⟩ := hk ho
      exact ⟨buffer ++ data, by rw [hk]⟩
    commit := fun _ _ _ => nofun
    emitBuffer := fun _ hc _ ho => nomatch hc.symm.trans ho
    close := fun _ _ => nofun }
  exact hdelivers.perform (fun _ => ⟨g.buffer, rfl⟩) hd h

theorem deliver_head (hd : op.isDelivery = true) : (g.perform op).2.head = g.head := by
  have hdelivers : Delivers fun k : Generator σ => k.head = g.head := {
    gather := fun hk _ _ => hk
    commit := fun hk _ _ => hk
    emitBuffer := fun hk _ _ => hk
    close := fun hk _ => hk }
  exact hdelivers.perform rfl hd

theorem perform_aside (ha : op.isAside = true) (hp : g.phase = .opened) :
    (g.perform op).2 = { g with sink := op.onSink g.sink } := by
  cases op with
  | informational code =>
    simp only [perform, withStatus, ResponseOp.onSink]
    cases Status.ofCode code with
    | error => rfl
    | ok status =>
      by_cases hi : status.isInformational = true
      · have he : g.informational status = g.emit (.informational status) := by simp [informational, hi, hp]
        simp only [he, hi, if_true]
        rfl
      · simp [informational, hi]
  | raw => rfl
  | _ => cases ha

/-- An operation that leaves a response open changes the head as it is meant to, and the sink only beside it. -/
theorem perform_opened (h : (g.perform op).2.phase = .opened) :
    ∃ buffer, (g.perform op).2 =
      { g with
        sink := op.onSink g.sink
        head := if op = .reset then {} else op.onHead g.head
        buffer := buffer } := by
  have hp : g.phase = .opened := opened_of_run [op] h
  rcases op.kinds with hc | hd | ha | rfl
  · rw [perform_headChange hc, changeHead_opened hp]
    cases op <;> first | exact ⟨g.buffer, rfl⟩ | cases hc
  · obtain ⟨buffer, hb⟩ := deliver_opened hd h
    rw [hb]
    cases op <;> first | exact ⟨buffer, rfl⟩ | cases hd
  · rw [perform_aside ha hp]
    cases op <;> first | exact ⟨g.buffer, rfl⟩ | cases ha
  · change ∃ buffer, g.reset.2 = _
    rw [reset_opened hp]
    exact ⟨[], rfl⟩

/-- Only a delivery commits, and it leaves the head as it is. -/
theorem perform_commits (hp : g.phase = .opened) (h : (g.perform op).2.phase ≠ .opened) :
    (g.perform op).2.head = g.head := by
  rcases op.kinds with hc | hd | ha | rfl
  · rw [perform_headChange hc, changeHead_opened hp] at h
    exact absurd hp h
  · exact deliver_head hd
  · rw [perform_aside ha hp] at h
    exact absurd hp h
  · have hreset : (g.perform .reset).2.phase = g.phase := congrArg (fun r => r.2.phase) (reset_opened hp)
    exact absurd (hreset.trans hp) h

end Operation

section Runs

variable {ops : List ResponseOp}

/-- A response that is still open is what its operations have drafted. -/
theorem run_opened (hg : g.head = {}) (h : (run ops g).phase = .opened) :
    ∃ buffer, run ops g =
      { g with sink := onSinkAll ops g.sink, head := ResponseHead.drafted ops, buffer := buffer } := by
  induction ops using List.reverseRecOn with
  | nil => exact ⟨g.buffer, by rw [ResponseHead.drafted, sinceReset, List.rtakeWhile_nil, List.foldl_nil, ← hg]; rfl⟩
  | append_singleton ops op ih =>
    rw [run_append] at h ⊢
    have ho : ((run ops g).perform op).2.phase = .opened := h
    obtain ⟨_, hk⟩ := ih (opened_of_run [op] h)
    obtain ⟨buffer, hop⟩ := perform_opened ho
    refine ⟨buffer, hop.trans ?_⟩
    rw [ResponseHead.drafted_snoc, onSinkAll, List.foldl_append, hk]
    rfl

/-- A response that is not open any more was committed by one of its operations. -/
theorem commit_point (hp : g.phase = .opened) (h : (run ops g).phase ≠ .opened) :
    ∃ before op after, ops = before ++ op :: after ∧ (run before g).phase = .opened ∧
      ((run before g).perform op).2.phase ≠ .opened := by
  induction ops generalizing g with
  | nil => exact absurd hp h
  | cons op ops ih =>
    by_cases ho : (g.perform op).2.phase = .opened
    · obtain ⟨before, op', after, rfl, hb, ha⟩ := ih ho h
      exact ⟨op :: before, op', after, rfl, hb, ha⟩
    · exact ⟨[], op, ops, rfl, hp, ho⟩

/-- The head of a response that is not open any more is what was drafted before its commit. -/
theorem run_committed (hp : g.phase = .opened) (hg : g.head = {}) (h : (run ops g).phase ≠ .opened) :
    ∃ before op after, ops = before ++ op :: after ∧ (run before g).phase = .opened ∧
      (run (before ++ [op]) g).phase ≠ .opened ∧ (run ops g).head = .drafted before := by
  obtain ⟨before, op, after, rfl, hb, ha⟩ := commit_point hp h
  obtain ⟨_, hk⟩ := run_opened hg hb
  have hcommits : ((run before g).perform op).2.head = .drafted before :=
    (perform_commits hb ha).trans (congrArg Generator.head hk)
  have hhead : (run (before ++ op :: after) g).head = .drafted before := by
    rw [run_append]
    exact ((head_persists _).run ⟨ha, rfl⟩ after).2.trans hcommits
  have hend : (run (before ++ [op]) g).phase ≠ .opened := by
    rw [run_append]
    exact ha
  exact ⟨before, op, after, rfl, hb, hend, hhead⟩

theorem run_asides (hp : g.phase = .opened) (ha : ∀ op ∈ ops, op.isAside = true) :
    run ops g = { g with sink := onSinkAll ops g.sink } := by
  induction ops generalizing g with
  | nil => rfl
  | cons op ops ih =>
    have hop : (g.perform op).2 = { g with sink := op.onSink g.sink } := perform_aside (ha op (by simp)) hp
    rw [run, hop]
    exact ih (g := { g with sink := op.onSink g.sink }) hp fun o ho => ha o (by simp [ho])

/-- Of what was done before a reset that succeeds, only what was sent beside the response remains. -/
theorem run_reset (hg : g.head = {}) (hb : g.buffer = []) (h : (run ops g).phase = .opened)
    (rest : List ResponseOp) :
    run (ops ++ .reset :: rest) g = run (ops.filter ResponseOp.isAside ++ rest) g := by
  have hasides : run (ops.filter ResponseOp.isAside) g = { g with sink := onSinkAll ops g.sink } := by
    rw [run_asides (opened_of_run ops h) fun op hop => (List.mem_filter.mp hop).2, onSinkAll_asides]
  have hreset : ((run ops g).perform .reset).2 = { g with sink := onSinkAll ops g.sink } := by
    obtain ⟨buffer, hk⟩ := run_opened hg h
    change (run ops g).reset.2 = _
    rw [reset_opened h, hk, ← hg, ← hb]
  rw [run_append, run_append, hasides, run, hreset]

end Runs

/-- Whatever an application does to its response and whatever the sink answers, the head that the sink is handed
at the commit is the usual one with what was set before the commit and since the last reset. From the commit on,
whether or not the sink took it, the head stays and is what the application sees, a reset fails, and no headers
are handed over again. Phases only go forward. What was set or written before a reset that succeeds leaves no
trace: the rest goes as if only interim responses and raw octets had come before it. -/
theorem head_since_reset (sink : σ) (capacity : Nat) (omitBody : Bool) (ops more : List ResponseOp) :
    let start : Generator σ := { Generator.new sink capacity with omitBody := omitBody }
    let g := run ops start.tapped
    let later := run more g
    g.mapSink Tapped.sink = run ops start ∧
    (g.phase = .opened →
      g.head = .drafted ops ∧ g.sink.headings = [] ∧ g.reset = (.ok (), { g with buffer := [], head := {} }) ∧
      run (ops ++ .reset :: more) start.tapped = run (ops.filter ResponseOp.isAside ++ more) start.tapped) ∧
    (g.phase ≠ .opened →
      (∃ before op after, ops = before ++ op :: after ∧ (run before start.tapped).phase = .opened ∧
        (run (before ++ [op]) start.tapped).phase ≠ .opened ∧ g.head = .drafted before) ∧
      (∃ buffered last, later.sink.headings = [.headers g.head buffered last]) ∧
      later.head = g.head ∧ later.view.status = g.head.status ∧ later.view.headers = g.head.headers ∧
      later.reset = (.error (.illegalState .resetAfterCommit), later)) ∧
    g.phase.number ≤ later.phase.number := by
  intro start g later
  have hstart : Headed start.tapped := ⟨fun _ => rfl, fun hn => absurd rfl hn⟩
  have hheaded : Headed g := headed_persists.run hstart ops
  constructor
  · exact run_follows_always Tapped.sink_follows_always ops start.tapped
  constructor
  · intro hp
    obtain ⟨_, hg⟩ := run_opened (g := start.tapped) rfl hp
    have hdraft : g.head = .drafted ops := congrArg Generator.head hg
    exact ⟨hdraft, hheaded.1 hp, reset_opened hp, run_reset rfl rfl hp more⟩
  constructor
  · intro hn
    obtain ⟨hlater, hhead⟩ := (head_persists g.head).run ⟨hn, rfl⟩ more
    have hlast : Headed later := headed_persists.run hheaded more
    constructor
    · exact run_committed (g := start.tapped) rfl rfl hn
    constructor
    · rw [← hhead]
      exact hlast.2 hlater
    · exact ⟨hhead, congrArg ResponseHead.status hhead, congrArg ResponseHead.headers hhead, reset_fixed hlater⟩
  · exact (phase_persists _).run (Nat.le_refl _) more

-- The last write fills the buffer and commits. What was set before the reset or after that write is not sent.
example :
    let g := run [.header "x-old" "1", .write [1], .reset, .status 404, .header "x-a" "1", .addHeader "x-a" "2",
      .write [2], .write [3], .status 500, .addHeader "x-b" "1", .reset] (Generator.new ({} : Journal) 2)
    g.sink.entries =
      [.headers { status := { code := 404 }, headers := .ofPairs [("x-a", "1"), ("x-a", "2")] } [2, 3] false] := by
  decide +kernel

end Generator

end FramedHttp
