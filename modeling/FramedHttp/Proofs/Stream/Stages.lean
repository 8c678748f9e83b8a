import FramedHttp.Proofs.Stream.Abandoned
import FramedHttp.Proofs.Stream.BlockingWait

/-!
# Stages in order

Stage and buffer of a stream are written by different calls, and a call can fail between them. All the same
the stages are passed in their order, the buffer is untouched until the header section has ended, and the last
stage comes with the end mark. A reader that waits there has its answer at once.
-/

set_option autoImplicit false

namespace FramedHttp

open Content Content.Buffer

namespace Stream

variable {ε : Type} [Engine ε] (hε : Engine.Uses ε)
include hε

/-- Nothing has come of the body before the header section has ended. -/
theorem untouched_kept : Kept fun s : Stream ε =>
    s.pending = false ∧ (s.state.canBlock = true ∨ s.buffer.fragment = [] ∧ s.buffer.complete = false) := by
  have hused : ∀ {b c : Buffer}, b.fragment = [] ∧ b.complete = false → Used b c →
      c.fragment = [] ∧ c.complete = false :=
    fun hb hc => ⟨used_nil hc hb.1, (used_complete hc).trans hb.2⟩
  apply early_kept (R := fun b => b.fragment = [] ∧ b.complete = false)
  · intro cb occasion s hs
    exact hused hs (hε cb occasion s)
  · intro b c hb hc
    exact hused hb (.inl hc)
  · intro b hb
    exact hused hb (.inr rfl)

/-- The end of the stream and a refusal set the end mark before anything else can fail. -/
theorem ended_kept : Kept fun s : Stream ε => s.pending = false ∧ (s.state = .final → s.buffer.complete = true) where
  settled h := h.1
  move {s t} h hm := by
    apply And.intro (move_pending hm)
    intro ht
    cases hm with
    | start => simp [opening] at ht
    | reject => rfl
    | fields => simp [forwardFields_state] at ht
    | headersEnd => simp at ht
    | body => simp [announceChunk_state] at ht
    | finish => exact used_complete (invoke_used hε _ _)
  release h n _ hb := ⟨h.1, fun hs => (released_complete ⟨n, hb⟩).trans (h.2 hs)⟩
  discard h := h
  pull h := h
  terminate h := h

end Stream

open FramedHttp.Stream

namespace Session

variable {ε : Type} [Engine ε]

/-- A wait does to a session what its transport does and what arrives meanwhile, and nothing else. -/
theorem course_undergoes {x : Transport ε} {arrivals : List (List Happening)} {maxIdle : Duration} {s : Session ε}
    {r : Except StreamError (Option Octets) × Session ε} {calls : List LinkCall}
    (h : Waiting.Course x.waiting (arrivals.map undergo) maxIdle s r calls) :
    ∃ happenings, r.2 = undergo happenings s := by
  have hpull : ∀ {c t}, x.waiting.pull s = (c, t) → t = undergo (x.pull s).2 s :=
    fun hp => (congrArg Prod.snd hp).symm
  cases h with
  | found hw => exact ⟨[], Waiting.settle_found hw⟩
  | failed _ hp => exact ⟨_, hpull hp⟩
  | @answered _ u n _ hp ht hu =>
    rw [← List.map_take, foldl_undergo, hpull hp, ← undergo_append] at ht
    exact ⟨_, (Waiting.settle_found hu).trans ht.symm⟩
  | @expired _ u _ hp ht =>
    rw [foldl_undergo, hpull hp, ← undergo_append] at ht
    have hu : (x.waiting.terminate u).2 = undergo ((x.pull s).2 ++ arrivals.flatten ++ (x.terminate u).2) s := by
      rw [undergo_append, ht]
      rfl
    exact ⟨_, hu⟩

/-- Over everything that can happen to a session, waits on any transport included, the stage of its stream never
goes back, nor does it within the moves that a frame makes. Before the header section has ended nothing is unread
and the end mark is not set; in the last stage it is set, and a wait that begins there answers at once with what is
left over, without a call of the transport. -/
theorem stages_in_order (hε : Engine.Uses ε) (settings : Settings) (link : Link) (engine : ε)
    (inbox : List InFrame) (pressure : Bool) (before more : List Happening) :
    let start : Session ε := { stream := .new settings link engine, inbox := inbox, pressure := pressure }
    let s := undergo before start
    s.stream.state.number ≤ (undergo more s).stream.state.number ∧
    (∀ frame, Relation.ReflTransGen (fun t u => Move t u ∧ t.state.number ≤ u.state.number)
      s.stream (s.stream.receive frame).2) ∧
    (s.stream.state.number < Lifecycle.headersComplete.number → Starved s) ∧
    (s.stream.state = .final →
      s.buffer.complete = true ∧
      (∀ (x : Transport ε) (arrivals : List (List Happening)) (maxIdle : Duration),
        x.waiting.logged.block ((arrivals.map undergo).map Waiting.beside) maxIdle (s, []) =
          (.ok s.buffer.unread?, s, [])) ∧
      ∀ (arrive : Session ε → Session ε) (maxIdle : Duration),
        s.blockDuring arrive maxIdle = (.ok s.buffer.unread?, s)) ∧
    ∀ (x : Transport ε) (arrivals : List (List Happening)) (maxIdle : Duration),
      ∃ happenings, (x.waiting.block (arrivals.map undergo) maxIdle s).2 = undergo happenings s := by
  intro start s
  have hp : s.stream.pending = false := undergo_keeps settled_kept (fun _ => id) before rfl
  constructor
  · have hm := undergo_keeps (stage_kept s.stream.state.number) (fun _ => id) more ⟨hp, Nat.le_refl _⟩
    exact hm.2
  constructor
  · intro frame
    have hmono : Move ≤ fun t u : Stream ε => Move t u ∧ t.state.number ≤ u.state.number :=
      fun _ _ hm => ⟨hm, move_number hm⟩
    exact Relation.ReflTransGen.mono hmono _ _ (receive_moves frame s.stream)
  constructor
  · intro hearly
    have hu := undergo_keeps (untouched_kept hε) (fun _ => id) before (s := start) ⟨rfl, .inr ⟨rfl, rfl⟩⟩
    exact hu.2.resolve_left fun hb => Nat.not_le_of_lt hearly (Lifecycle.canBlock_iff.mp hb)
  constructor
  · intro hf
    have he := undergo_keeps (ended_kept hε) (fun _ => id) before (s := start) ⟨rfl, fun h => nomatch h⟩
    have hk : s.buffer.complete = true := he.2 hf
    have hb : s.stream.state.canBlock = true := by
      rw [hf]
      rfl
    have hfed : ¬ Starved s := fun h => absurd (hk.symm.trans h.2) (by decide)
    constructor
    · exact hk
    constructor
    · intro x arrivals maxIdle
      obtain ⟨hr, hc⟩ := Waiting.block_course x.waiting (arrivals.map undergo) maxIdle s
      rw [hr] at hc
      obtain ⟨ho, ht, hcalls⟩ := course_fed hc hb hfed
      exact Prod.ext ho (Prod.ext ht hcalls)
    · exact fun arrive maxIdle => blockDuring_marked ⟨hp, hb, hk⟩ arrive maxIdle
  · intro x arrivals maxIdle
    exact course_undergoes (Waiting.block_course x.waiting (arrivals.map undergo) maxIdle s).2

/-- The engine fails at the chunk and at the end of the message, and a reader still gets the octets left over. -/
theorem leftover_after_failures :
    let first := Headers.ofPairs [("method", "POST"), ("url", "/a"), ("version", "HTTP/1.1")]
    let failing : Recorder := { faults := [⟨.chunk, 0, .parse "chunk"⟩, ⟨.complete, 0, .parse "end"⟩] }
    let before : List Happening :=
      [.use (.receive (.metadata first)), .use (.receive (.body [1, 2] false)), .use (.receive .streamEnd)]
    let s := undergo before { stream := .new {} {} failing }
    Engine.Uses Recorder ∧ s.stream.state = .final ∧ s.buffer.complete = true ∧
      s.stream.state.number ≤ (undergo [.use (.consume 1), .use .discard] s).stream.state.number ∧
      s.block (.seconds 1) = (.ok (some [1, 2]), s) := by
  intro first failing before
  dsimp only
  have hε : Engine.Uses Recorder := Engine.uses_of_consumes Recorder.consumes_only
  obtain ⟨hstage, _, _, hfinal, _⟩ :=
    stages_in_order hε {} {} failing [] true before [.use (.consume 1), .use .discard]
  have hu : (undergo before { stream := .new {} {} failing }).buffer.unread? = some [1, 2] := by decide +kernel
  obtain ⟨hk, _, hblock⟩ := hfinal (by decide +kernel)
  have hb := hblock id (.seconds 1)
  rw [hu] at hb
  exact ⟨hε, by decide +kernel, hk, hstage, hb⟩

end Session

end FramedHttp
