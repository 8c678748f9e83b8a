import FramedHttp.Proofs.Content.Following
import FramedHttp.Proofs.Content.Reading
import FramedHttp.Stream.Operation

/-!
# Scripts of calls

A session reaches its stream through few calls: it delivers a frame, or dispatches; it releases octets for a
reader or gives the body up; it pulls and terminates over the link. Whatever is done to a session, what
becomes of its stream is the replay of the calls that were made on the way, and what is to be known about
single frames and octets can be read off them.
-/

set_option autoImplicit false

namespace FramedHttp

open Content

inductive StreamCall where
  | receive (frame : InFrame)
  | dispatch
  | release (n : Nat)
  | discard
  | pull
  | terminate
  deriving DecidableEq, Repr

/-- The call lets frames in. -/
def StreamCall.delivers : StreamCall → Bool
  | .receive _ => true
  | .pull => true
  | _ => false

/-- The use gives the body up. -/
def SessionOp.discards : SessionOp → Bool
  | .discard => true
  | .body _ op => decide (op = .discard)
  | _ => false

variable {ε : Type}

namespace Stream

/-- Releases exactly so many octets of the body, or refuses. -/
def release (n : Nat) (s : Stream ε) : Outcome StreamError (Stream ε) :=
  match s.buffer.release? n with
  | some b => (.ok (), s.withBuffer b)
  | none => s.refuse .consumeBeyondBuffered

variable [Engine ε]

def call (c : StreamCall) (s : Stream ε) : Outcome StreamError (Stream ε) :=
  match c with
  | .receive frame => s.receive frame
  | .dispatch => s.dispatch
  | .release n => s.release n
  | .discard => (.ok (), s.withBuffer s.buffer.discard)
  | .pull => s.link.pull.mapState fun l => s.withLink l
  | .terminate => s.link.terminate.mapState fun l => s.withLink l

def replay : List StreamCall → Stream ε → Stream ε
  | [], s => s
  | c :: calls, s => replay calls (s.call c).2

/-- What is noted of every call, in the state that it finds. -/
def record {α : Type} (note : StreamCall → Stream ε → List α) : List StreamCall → Stream ε → List α
  | [], _ => []
  | c :: calls, s => note c s ++ record note calls (s.call c).2

theorem replay_append (calls rest : List StreamCall) (s : Stream ε) :
    s.replay (calls ++ rest) = (s.replay calls).replay rest := by
  induction calls generalizing s with
  | nil => rfl
  | cons c calls ih => exact ih _

end Stream

namespace Session

variable [Engine ε]

def pumpCalls (pressure : Bool) : List InFrame → Stream ε → List StreamCall
  | [], _ => []
  | frame :: rest, s =>
    if holds pressure frame s then []
    else .receive frame ::
      match s.receive frame with
      | (.ok _, t) => pumpCalls pressure rest t
      | (.error _, _) => []

def pullCalls (s : Session ε) : List StreamCall :=
  .pull ::
    match s.link.pull with
    | (.ok _, l) => pumpCalls s.pressure s.inbox (s.withLink l).stream
    | (.error _, _) => []

def awaitCalls (waits : Bool) (s : Session ε) : List StreamCall :=
  match s.look with
  | .waiting => if waits then [] else s.pullCalls
  | _ => []

/-- A wait that finds nothing expires. -/
def blockCalls (s : Session ε) : List StreamCall :=
  s.awaitCalls false ++
    match (s.await false).1 with
    | .waiting => match (s.await false).2.look with
      | .waiting => [.terminate]
      | _ => []
    | _ => []

def discardCalls (s : Session ε) : List StreamCall :=
  let given := s.withBuffer s.buffer.discard
  .discard :: if given.buffer.isExhausted then [] else given.pullCalls

/-- A session, with the calls on its stream since it was looked at. -/
structure Traced (ε : Type) where
  session : Session ε
  calls : List StreamCall := []

namespace Traced

def trace (calls : List StreamCall) (t : Session ε) (x : Traced ε) : Traced ε :=
  { session := t, calls := x.calls ++ calls }

instance : Source (Traced ε) where
  available x := Source.available x.session
  await waits x := (Source.await waits x.session).map id fun t => x.trace (x.session.awaitCalls waits) t
  expire maxIdle x := (Source.expire maxIdle x.session).map id fun t => x.trace [.terminate] t
  consume n x := (Source.consume n x.session).map id fun t => x.trace [.release n] t
  discard x := (Source.discard x.session).map id fun t => x.trace x.session.discardCalls t
  reads x := Source.reads x.session

theorem session_follows : Follows (session (ε := ε)) where
  available _ := rfl
  await _ _ := rfl
  expire _ _ := rfl
  consume _ _ := rfl
  discard _ := rfl
  reads _ := rfl

end Traced

def bodyCalls (maxIdle : Duration) (op : BodyOp) (s : Session ε) : List StreamCall :=
  (op.perform maxIdle ({ session := s } : Traced ε)).2.calls

/-- The calls of one use of a session. -/
def calls (op : SessionOp) (s : Session ε) : List StreamCall :=
  match op with
  | .receive frame => [.receive frame]
  | .dispatch => [.dispatch]
  | .enqueue _ => []
  | .pump => pumpCalls s.pressure s.inbox s.stream
  | .availableNow => []
  | .block _ => s.blockCalls
  | .consume n => [.release n]
  | .discard => s.discardCalls
  | .body maxIdle op => s.bodyCalls maxIdle op

def runCalls : List SessionOp → Session ε → List StreamCall
  | [], _ => []
  | op :: ops, s => s.calls op ++ runCalls ops (s.perform op).2

theorem pumpFrames_replay (pressure : Bool) (frames : List InFrame) (s : Stream ε) :
    (pumpFrames pressure frames s).2.1 = s.replay (pumpCalls pressure frames s) := by
  induction frames generalizing s with
  | nil => rfl
  | cons frame rest ih =>
    rw [pumpFrames, pumpCalls]
    split
    · rfl
    · simp only [Stream.replay, Stream.call]
      rcases s.receive frame with ⟨_ | _, t⟩
      · rfl
      · exact ih t

theorem pump_replay (s : Session ε) :
    s.pump.2.stream = s.stream.replay (pumpCalls s.pressure s.inbox s.stream) := by
  rw [← pumpFrames_replay]
  unfold pump afterDelivery
  dsimp only
  split <;> rfl

theorem pull_replay (s : Session ε) : s.pull.2.stream = s.stream.replay s.pullCalls := by
  unfold pull pullCalls
  simp only [Stream.replay, Stream.call]
  change _ = Stream.replay _ (s.stream.withLink s.link.pull.2)
  rcases s.link.pull with ⟨_ | _, l⟩
  · rfl
  · exact pump_replay (s.withLink l)

theorem await_replay (s : Session ε) (waits : Bool) :
    (s.await waits).2.stream = s.stream.replay (s.awaitCalls waits) := by
  have hp := pull_replay s
  unfold await awaitCalls
  cases s.look with
  | waiting =>
    cases waits with
    | true => rfl
    | false =>
      rcases hr : s.pull with ⟨_ | _, t⟩ <;> rw [hr] at hp <;> exact hp
  | _ => rfl

theorem consume_replay (s : Session ε) (n : Nat) : (s.consume n).2.stream = (s.stream.call (.release n)).2 := by
  simp only [consume, Stream.call, Stream.release, buffer]
  cases s.stream.buffer.release? n <;> rfl

theorem discard_replay (s : Session ε) : s.discard.2.stream = s.stream.replay s.discardCalls := by
  unfold discard discardCalls
  dsimp only
  split
  · rfl
  · exact pull_replay _

theorem block_replay (maxIdle : Duration) (s : Session ε) :
    (s.block maxIdle).2.stream = s.stream.replay s.blockCalls := by
  have ha := await_replay s false
  unfold block blockDuring blockCalls
  rw [Stream.replay_append, ← ha]
  rcases s.await false with ⟨octets | _ | _ | _, t⟩
  · rfl
  · rfl
  · rfl
  · simp only [id, settle]
    cases t.look <;> rfl

/-- What is traced is what happened. -/
theorem traced_keeps (s : Stream ε) : Keeps fun x : Traced ε => x.session.stream = s.replay x.calls where
  await {x} h waits := by
    change (x.session.await waits).2.stream = s.replay (x.calls ++ _)
    rw [Stream.replay_append, ← h, await_replay]
  expire {x} h _ := by
    change _ = s.replay (x.calls ++ _)
    rw [Stream.replay_append, ← h]
    rfl
  consume {x} h n := by
    change ((x.session.consume n).mapError StreamError.toEngine).2.stream = s.replay (x.calls ++ _)
    rw [Stream.replay_append, ← h, Outcome.mapError_snd, consume_replay]
    rfl
  discard {x} h := by
    change (x.session.discard.mapError StreamError.toEngine).2.stream = s.replay (x.calls ++ _)
    rw [Stream.replay_append, ← h, Outcome.mapError_snd, discard_replay]

theorem body_replay (maxIdle : Duration) (op : BodyOp) (s : Session ε) :
    (op.perform maxIdle s).2.stream = s.stream.replay (s.bodyCalls maxIdle op) := by
  have hk := perform_keeps (traced_keeps s.stream) (s := { session := s }) rfl maxIdle op
  have hf := congrArg Prod.snd (perform_follows Traced.session_follows maxIdle op { session := s })
  exact (congrArg Session.stream hf.symm).trans hk

theorem perform_replay (op : SessionOp) (s : Session ε) :
    (s.perform op).2.stream = s.stream.replay (s.calls op) := by
  cases op with
  | receive => rfl
  | dispatch => rfl
  | enqueue => rfl
  | pump => exact pump_replay s
  | availableNow => rfl
  | block maxIdle => exact block_replay maxIdle s
  | consume n => exact consume_replay s n
  | discard => exact discard_replay s
  | body maxIdle op => exact body_replay maxIdle op s

/-- A run of a session is a replay for its stream. -/
theorem run_replay (ops : List SessionOp) (s : Session ε) :
    (run ops s).stream = s.stream.replay (runCalls ops s) := by
  induction ops generalizing s with
  | nil => rfl
  | cons op ops ih =>
    rw [run, runCalls, ih, Stream.replay_append, perform_replay]

theorem delivers_pumpCalls (pressure : Bool) (frames : List InFrame) (s : Stream ε) :
    ∀ c ∈ pumpCalls pressure frames s, c.delivers = true := by
  induction frames generalizing s with
  | nil => exact nofun
  | cons frame rest ih =>
    unfold pumpCalls
    split
    · exact nofun
    · rcases s.receive frame with ⟨_ | _, t⟩
      · simp [StreamCall.delivers]
      · simpa [StreamCall.delivers] using ih t

theorem delivers_pullCalls (s : Session ε) : ∀ c ∈ s.pullCalls, c.delivers = true := by
  unfold pullCalls
  rcases s.link.pull with ⟨_ | _, l⟩
  · simp [StreamCall.delivers]
  · simpa [StreamCall.delivers] using delivers_pumpCalls s.pressure s.inbox (s.withLink l).stream

/-- Whoever awaits octets does no more than let frames in. -/
theorem delivers_awaitCalls (waits : Bool) (s : Session ε) : ∀ c ∈ s.awaitCalls waits, c.delivers = true := by
  unfold awaitCalls
  cases s.look with
  | waiting =>
    cases waits with
    | true => exact nofun
    | false => exact delivers_pullCalls s
  | _ => exact nofun

theorem not_mem_awaitCalls {c : StreamCall} (hc : c.delivers = false) (waits : Bool) (s : Session ε) :
    c ∉ s.awaitCalls waits := by
  intro h
  exact absurd (hc.symm.trans (delivers_awaitCalls waits s c h)) (by decide)

theorem discard_blockCalls (s : Session ε) : .discard ∉ s.blockCalls := by
  unfold blockCalls
  rw [List.mem_append]
  rintro (h | h)
  · exact not_mem_awaitCalls rfl false s h
  · split at h
    · split at h <;> simp at h
    · simp at h

/-- A read lets frames in and releases octets, and makes no other calls. -/
theorem reads_without {c : StreamCall} (hc : c.delivers = false) (hr : ∀ n, c ≠ .release n) :
    Reads fun x : Traced ε => c ∉ x.calls where
  await {x} h waits := by
    change c ∉ x.calls ++ x.session.awaitCalls waits
    exact fun hm => (List.mem_append.mp hm).elim h (not_mem_awaitCalls hc waits x.session)
  consume {x} h n := by
    change c ∉ x.calls ++ [.release n]
    exact fun hm => (List.mem_append.mp hm).elim h fun hn => hr n (List.mem_singleton.mp hn)

theorem discard_bodyCalls (maxIdle : Duration) {op : BodyOp} (hop : op ≠ .discard) (s : Session ε) :
    .discard ∉ s.bodyCalls maxIdle op := by
  apply reading_keeps (reads_without (c := .discard) rfl nofun) _ _ maxIdle hop
  · intro x h _
    simpa [Source.expire, Traced.trace] using h
  · exact List.not_mem_nil

/-- A run gives the body up only where it is told to. -/
theorem discard_runCalls {ops : List SessionOp} (hops : ∀ op ∈ ops, op.discards = false) (s : Session ε) :
    .discard ∉ runCalls ops s := by
  induction ops generalizing s with
  | nil => exact List.not_mem_nil
  | cons op ops ih =>
    have hrest := ih (fun op h => hops op (by simp [h])) (s.perform op).2
    have hop := hops op (by simp)
    rw [runCalls, List.mem_append]
    rintro (h | h)
    · cases op with
      | receive => simp [calls] at h
      | dispatch => simp [calls] at h
      | enqueue => simp [calls] at h
      | pump => cases delivers_pumpCalls _ _ _ _ h
      | availableNow => simp [calls] at h
      | block => exact discard_blockCalls s h
      | consume => simp [calls] at h
      | discard => cases hop
      | body maxIdle op => exact discard_bodyCalls maxIdle (of_decide_eq_false hop) s h
    · exact hrest h

end Session

end FramedHttp
