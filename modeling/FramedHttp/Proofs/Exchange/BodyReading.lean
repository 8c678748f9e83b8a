import FramedHttp.Proofs.Exchange.Arrival
import FramedHttp.Proofs.Stream.Listening
import FramedHttp.Proofs.Stream.Script

/-!
# Reading the body of a request

A request waits in the inbox of its session: one header section, then the frames of its body, held back
while octets are unread. The octets that were read, those unread in the buffer and those of the frames in the
inbox make up the body in this order, whatever the sizes of the reads and wherever the frames were cut.
-/

set_option autoImplicit false

namespace FramedHttp

open Content Content.Buffer

namespace InFrame

/-- What a frame brings of a body. -/
def octets : InFrame → Octets
  | .body data _ => data
  | _ => []

/-- What an engine is told of a frame of a body. -/
def callbacks : InFrame → List Callback
  | .body data _ => if data.isEmpty then [] else [.chunk data]
  | .streamEnd => [.complete 0]
  | _ => []

end InFrame

/-- The chunks in which frames bring a body: a frame without octets brings none. -/
def bodyChunks (frames : List InFrame) : List Octets :=
  (frames.map InFrame.octets).filter fun data => !data.isEmpty

theorem bodyFrames_callbacks {frames : List InFrame} (h : BodyFrames frames) :
    frames.flatMap InFrame.callbacks = (bodyChunks frames).map .chunk ++ [.complete 0] := by
  induction h with
  | ended => rfl
  | last data => cases data <;> rfl
  | more data h ih =>
    rw [List.flatMap_cons, ih]
    cases data <;> rfl

/-- A request with a body, queued for an engine. -/
structure Upload (ε : Type) where
  settings : Settings := {}
  link : Link := {}
  engine : ε
  first : Headers
  frames : List InFrame

namespace Upload

variable {ε : Type}

def session (u : Upload ε) : Session ε :=
  { stream := .new u.settings u.link u.engine, inbox := .metadata u.first :: u.frames }

def body (u : Upload ε) : Octets :=
  u.frames.flatMap InFrame.octets

/-- The whole request as its engine is to be told of it. -/
def callbacks (u : Upload ε) (line : RequestLine) : List Callback :=
  Callback.request line.method line.target line.version (u.settings.translate u.first)
    (bodyChunks u.frames)

/-- The request comes whole over a link that takes pulls, to an engine that listens to it. -/
structure Heard [Engine ε] (u : Upload ε) : Prop where
  frames : BodyFrames u.frames
  pulls : ∀ f ∈ u.link.faults, f.on ≠ .pull
  listens : ∃ line, RequestLine.ofHeaders u.first = .ok line ∧
    Engine.Listens u.link.faults [] (u.callbacks line) u.engine

end Upload

theorem arriving_complete {state : Lifecycle} {frames : List InFrame} (h : Arriving state true frames) :
    frames.flatMap InFrame.octets = [] := by
  cases h <;> rfl

variable {ε : Type} [Engine ε] {faults : List (Fault LinkCall StreamError)} {body : Octets}

namespace Stream

variable {s t : Stream ε} {inbox rest : List InFrame} {frame : InFrame}

/-- This much of the body is still to be read: what is unread, and what the frames bring. -/
structure Supplied (faults : List (Fault LinkCall StreamError)) (body : Octets) (inbox : List InFrame)
    (s : Stream ε) : Prop where
  listening : Listening faults (inbox.flatMap InFrame.callbacks) s
  arriving : Arriving s.state s.buffer.complete inbox
  kept : s.buffer.discarding = false
  left : s.buffer.fragment ++ inbox.flatMap InFrame.octets = body

/-- The engine hears of a frame that is in the buffer already. -/
theorem invoke_supplied {cb : Callback} (hl : Listening faults (cb :: inbox.flatMap InFrame.callbacks) s)
    (hs : s.state = cb.stage) (hf : cb.Finds s.buffer) (ha : Arriving s.state s.buffer.complete inbox)
    (hk : s.buffer.discarding = false) (hleft : s.buffer.fragment ++ inbox.flatMap InFrame.octets = body) :
    ∃ t, s.invoke cb = (.ok (), t) ∧ Supplied faults body inbox t := by
  obtain ⟨hok, hlistening, hbuffer⟩ := listening_invoke hl hs hf
  rw [← hbuffer] at ha hk hleft
  rw [← invoke_state cb s] at ha
  exact ⟨_, hok, hlistening, ha, hk, hleft⟩

theorem receive_end_supplied (h : Supplied faults body [.streamEnd] s) (hread : s.state.isReading = true) :
    ∃ t, s.receive .streamEnd = (.ok (), t) ∧ Supplied faults body [] t := by
  have hl := (h.listening.withBuffer s.buffer.markComplete).reach .final
  have ha : Arriving .final s.buffer.markComplete.complete [] := .ended
  rw [receive, onEnd_reading h.listening.accepted hread]
  exact invoke_supplied hl rfl rfl ha h.kept h.left

/-- A body frame that finds everything read is what is unread next. -/
theorem receive_body_supplied {data : Octets} {last : Bool} (h : Supplied faults body (.body data last :: rest) s)
    (hread : s.state.isReading = true) (hd : s.buffer.isDrained = true)
    (hnext : Arriving .body (s.buffer.complete || last) rest) :
    ∃ t, s.receive (.body data last) = (.ok (), t) ∧ Supplied faults body rest t := by
  have hempty : s.buffer.fragment = [] := isDrained_iff.mp hd
  have hfill : s.buffer.fill data last =
      .ok { s.buffer with fragment := data, complete := s.buffer.complete || last } :=
    fill_ok_iff.mpr ⟨hempty, by simp [h.kept]⟩
  have hleft : data ++ rest.flatMap InFrame.octets = body := by
    have hb := h.left
    rwa [hempty] at hb
  have hl := (h.listening.withBuffer
    { s.buffer with fragment := data, complete := s.buffer.complete || last }).reach .body
  rw [List.flatMap_cons] at hl
  rw [receive, onBody_reading h.listening.accepted hread hfill]
  by_cases hn : data.isEmpty = true
  · have hcallbacks : (InFrame.body data last).callbacks = [] := if_pos hn
    rw [hcallbacks] at hl
    exact ⟨_, if_pos hn, hl, hnext, h.kept, hleft⟩
  · have hcallbacks : (InFrame.body data last).callbacks = [.chunk data] := if_neg hn
    rw [hcallbacks] at hl
    rw [announceChunk, if_neg (by exact hn)]
    exact invoke_supplied hl rfl rfl hnext h.kept hleft

theorem receive_supplied (h : Supplied faults body (frame :: rest) s) (hh : Session.holds true frame s = false) :
    ∃ t, s.receive frame = (.ok (), t) ∧ Supplied faults body rest t := by
  obtain ⟨hread, ⟨rfl, rfl⟩ | ⟨data, last, rfl, hnext⟩⟩ := arriving_cons h.arriving
  · exact receive_end_supplied h hread
  · have hd : s.buffer.isDrained = true := by simpa [Session.holds] using hh
    exact receive_body_supplied h hread hd (hnext .body rfl)

/-- The first frame of a body ends the header section before anything else. -/
theorem receive_open {frames : List InFrame} (hf : BodyFrames frames) (hr : s.rejected = false)
    (hs : s.state = .headerFields) (he : s.onHeadersEnd = (.ok (), t)) (hr' : t.rejected = false)
    (ht : t.state.isReading = true) :
    ∃ frame rest, frames = frame :: rest ∧ s.receive frame = t.receive frame := by
  cases hf with
  | ended => exact ⟨_, _, rfl, onEnd_open hr hs he hr' ht⟩
  | last data => exact ⟨_, _, rfl, onBody_open hr he ht data true⟩
  | more data hf => exact ⟨_, _, rfl, onBody_open hr he ht data false⟩

end Stream

namespace Session

variable {s t : Session ε}

/-- This much of the body is still to be read in a session that holds frames back. -/
structure Supplied (faults : List (Fault LinkCall StreamError)) (body : Octets) (s : Session ε) : Prop where
  stream : Stream.Supplied faults body s.inbox s.stream
  pressure : s.pressure = true

omit [Engine ε] in
theorem holds_drained {stream : Stream ε} (h : stream.buffer.isDrained = true) (pressure : Bool) (frame : InFrame) :
    holds pressure frame stream = false := by
  cases frame <;> simp [holds, h]

/-- Where the header section ends well, delivering the body starts behind it. -/
theorem pumpFrames_open {frames : List InFrame} {stream next : Stream ε} (hf : BodyFrames frames)
    (hr : stream.rejected = false) (hs : stream.state = .headerFields) (hb : stream.buffer = {})
    (he : stream.onHeadersEnd = (.ok (), next)) (hr' : next.rejected = false)
    (ht : next.state.isReading = true) (hb' : next.buffer = {}) :
    pumpFrames true frames stream = pumpFrames true frames next := by
  obtain ⟨frame, rest, rfl, hreceive⟩ := Stream.receive_open hf hr hs he hr' ht
  have hd : stream.buffer.isDrained = true := by rw [hb]; rfl
  have hd' : next.buffer.isDrained = true := by rw [hb']; rfl
  simp only [pumpFrames, holds_drained hd, holds_drained hd', hreceive, Bool.false_eq_true, if_false]

/-- What a reader finds where all is delivered that can be: octets, or the end. -/
theorem look_supplied (h : Supplied faults body s) (hf : s.inbox = [] ∨ s.buffer.isDrained = false) :
    s.look = .ended ∧ body = [] ∨ s.look = .content s.buffer.fragment ∧ s.buffer.fragment ≠ [] := by
  rw [look_arriving h.stream.arriving]
  by_cases hd : s.buffer.isDrained = true
  · have hi : s.inbox = [] := hf.resolve_right (by simp [hd])
    have ha := h.stream.arriving
    rw [hi] at ha
    have hleft : s.buffer.fragment ++ s.inbox.flatMap InFrame.octets = body := h.stream.left
    rw [hi, isDrained_iff.mp hd] at hleft
    have hc : s.buffer.complete = true := (arriving_nil ha).2
    rw [if_pos hd, if_pos hc]
    exact .inl ⟨rfl, hleft.symm⟩
  · rw [if_neg hd]
    exact .inr ⟨rfl, fun hn => hd (isDrained_iff.mpr hn)⟩

section Pulling

variable (hpulls : ∀ f ∈ faults, f.on ≠ .pull)
include hpulls

theorem pull_supplied (h : Supplied faults body s) :
    ∃ t, s.pull = (.ok (), t) ∧ Supplied faults body t ∧ (t.inbox = [] ∨ t.buffer.isDrained = false) := by
  have hlink : s.link.faults = faults := h.stream.listening.link
  rw [← hlink] at hpulls
  have hpull : s.link.pull = (.ok (), { s.link with pulls := s.link.pulls + 1 }) :=
    Prod.ext (Link.outcome_ok hpulls _) rfl
  have hs : Stream.Supplied faults body s.inbox (s.stream.withLink { s.link with pulls := s.link.pulls + 1 }) :=
    ⟨⟨h.stream.listening.accepted, h.stream.listening.link, h.stream.listening.engine⟩, h.stream.arriving,
      h.stream.kept, h.stream.left⟩
  obtain ⟨t, left, hp, ht, hleft⟩ := pull_takes Stream.receive_supplied hpull h.pressure hs
  exact ⟨_, hp, ⟨ht, h.pressure⟩, hleft⟩

/-- One pull is enough: whoever awaits octets finds some unless all were read, and then finds the end. -/
theorem await_supplied (h : Supplied faults body s) :
    ∃ t, Supplied faults body t ∧
      (s.await false = (.ended, t) ∧ body = [] ∨
        s.await false = (.content t.buffer.fragment, t) ∧ t.buffer.fragment ≠ []) := by
  have hlook := look_arriving h.stream.arriving
  by_cases hd : s.buffer.isDrained = true
  · rw [if_pos hd] at hlook
    by_cases hc : s.buffer.complete = true
    -- The end is known already, even if the frame that tells it is still on its way.
    · rw [if_pos hc] at hlook
      have ha : Arriving s.stream.state s.buffer.complete s.inbox := h.stream.arriving
      have hleft : s.buffer.fragment ++ s.inbox.flatMap InFrame.octets = body := h.stream.left
      rw [hc] at ha
      rw [arriving_complete ha, isDrained_iff.mp hd] at hleft
      have hawait : s.await false = (.ended, s) := by rw [await, hlook]
      exact ⟨s, h, .inl ⟨hawait, hleft.symm⟩⟩
    · rw [if_neg hc] at hlook
      obtain ⟨t, hp, ht, hf⟩ := pull_supplied hpulls h
      have hawait : s.await false = (t.look, t) := by
        rw [await, hlook]
        simp only [hp]
        rfl
      rw [hawait]
      rcases look_supplied ht hf with ⟨hl, hn⟩ | ⟨hl, hn⟩
      · exact ⟨t, ht, .inl ⟨by rw [hl], hn⟩⟩
      · exact ⟨t, ht, .inr ⟨by rw [hl], hn⟩⟩
  · rw [if_neg hd] at hlook
    have hawait : s.await false = (.content s.buffer.fragment, s) := by rw [await, hlook]
    exact ⟨s, h, .inr ⟨hawait, fun hn => hd (isDrained_iff.mpr hn)⟩⟩

omit hpulls in
theorem consume_supplied (h : Supplied faults body s) {taken tail : Octets} (hs : taken ++ tail = s.buffer.fragment) :
    ∃ rest t, s.consume taken.length = (.ok (), t) ∧ Supplied faults rest t ∧ body = taken ++ rest := by
  have hrelease : s.buffer.release? taken.length = some (s.buffer.consume taken.length) :=
    release?_eq_some_iff.mpr ⟨by simp [← hs], rfl⟩
  have hbody : s.buffer.fragment ++ s.inbox.flatMap InFrame.octets = body := h.stream.left
  have hleft : (s.buffer.consume taken.length).fragment ++ s.inbox.flatMap InFrame.octets =
      tail ++ s.inbox.flatMap InFrame.octets := by
    rw [fragment_consume, ← hs, List.drop_left]
  have hconsume : s.consume taken.length = (.ok (), s.withBuffer (s.buffer.consume taken.length)) := by
    rw [consume, hrelease]
  exact ⟨_, _, hconsume, ⟨⟨h.stream.listening.withBuffer _, h.stream.arriving, h.stream.kept, hleft⟩,
    h.pressure⟩, by rw [← hbody, ← hs, List.append_assoc]⟩

/-- A read brings the next octets of the body, and none only when there are none left. -/
theorem read_supplied (h : Supplied faults body s) {n : Nat} (hn : 0 < n) :
    ∃ octets rest t, Content.read false (some n) s = (.octets octets, t) ∧ Supplied faults rest t ∧
      body = octets ++ rest ∧ octets.length ≤ n ∧ (octets = [] ↔ body = []) := by
  have hsome : ¬some n = some 0 := by simp [Nat.ne_of_gt hn]
  obtain ⟨t, ht, ⟨ha, rfl⟩ | ⟨ha, hne⟩⟩ := await_supplied hpulls h
  · have hr : Content.read false (some n) s = (.octets [], t) := by
      have hs : Source.await false s = (.ended, t) := congrArg (Prod.map (Await.mapError StreamError.toEngine) id) ha
      simp only [Content.read, if_neg hsome, hs]
    exact ⟨[], [], t, hr, ht, rfl, Nat.zero_le n, Iff.rfl⟩
  · obtain ⟨rest, u, hc, hu, hsplit⟩ := consume_supplied ht (List.take_append_drop n t.buffer.fragment)
    have hr : Content.read false (some n) s = (.octets (t.buffer.fragment.take n), u) := by
      have hs : Source.await false s = (.content t.buffer.fragment, t) :=
        congrArg (Prod.map (Await.mapError StreamError.toEngine) id) ha
      have hk : Source.consume (t.buffer.fragment.take n).length t = (.ok (), u) :=
        congrArg (Outcome.mapError StreamError.toEngine) hc
      simp only [Content.read, if_neg hsome, hs, Reading.cut, hk]
    have hsome : t.buffer.fragment.take n ≠ [] := by
      simp [hne, Nat.ne_of_gt hn]
    have hbody : body ≠ [] := by
      rw [hsplit]
      simp [hsome]
    exact ⟨_, rest, u, hr, hu, hsplit, List.length_take_le n _, fun he => absurd he hsome, fun he => absurd he hbody⟩

/-- Reads of any sizes bring the body from its beginning on. -/
theorem readEach_supplied (h : Supplied faults body s) {sizes : List Nat} (hsizes : ∀ n ∈ sizes, 0 < n) :
    ∃ (got : List Octets) (rest : Octets) (t : Session ε), readEach sizes s = (got.map .octets, t) ∧
      Supplied faults rest t ∧ body = got.flatten ++ rest ∧ ([] ∈ got → rest = []) := by
  induction sizes generalizing s body with
  | nil => exact ⟨[], body, s, rfl, h, rfl, nofun⟩
  | cons n sizes ih =>
    obtain ⟨octets, rest, t, hr, ht, hbody, _, hempty⟩ := read_supplied hpulls h (hsizes n (by simp))
    obtain ⟨got, left, u, hu, hs, hrest, hended⟩ := ih ht fun m hm => hsizes m (by simp [hm])
    have hall : readEach (n :: sizes) s = ((octets :: got).map .octets, u) := by
      simp only [readEach, hr, hu, List.map_cons]
    have hsplit : body = (octets :: got).flatten ++ left := by
      rw [List.flatten_cons, List.append_assoc, ← hrest, hbody]
    refine ⟨octets :: got, left, u, hall, hs, hsplit, ?_⟩
    intro hm
    rcases List.mem_cons.mp hm with hm | hm
    -- A read that brings nothing has found the end, and nothing comes after it.
    · have hn := hempty.mp hm.symm
      rw [hn] at hsplit
      exact (List.append_eq_nil_iff.mp hsplit.symm).2
    · exact hended hm

end Pulling

/-- The uses of a session that read into buffers of these sizes. -/
def readOps (maxIdle : Duration) (sizes : List Nat) : List SessionOp :=
  sizes.map fun n => .body maxIdle (.read n)

/-- What the uses of a session answer. -/
def results : List SessionOp → Session ε → List SessionResult
  | [], _ => []
  | op :: ops, s => (s.perform op).1 :: results ops (s.perform op).2

theorem perform_read {n : Nat} {octets : Octets} (h : Content.read false (some n) s = (.octets octets, t))
    (maxIdle : Duration) : s.perform (.body maxIdle (.read n)) = (.body (.octets octets), t) := by
  simp only [perform, Content.perform_read h]
  rfl

/-- Only a wait that expires terminates a session, and a read that brings octets has not waited. -/
theorem terminate_read {n : Nat} {octets : Octets} (h : Content.read false (some n) s = (.octets octets, t))
    (maxIdle : Duration) : .terminate ∉ s.bodyCalls maxIdle (.read n) := by
  have hk := read_keeps (reads_without (c := .terminate) rfl nofun) (s := ({ session := s } : Traced ε)) nofun false
    (some n)
  have hf := read_follows Traced.session_follows false (some n) ({ session := s } : Traced ε)
  rcases hx : Content.read false (some n) ({ session := s } : Traced ε) with ⟨r, x⟩
  rw [hx] at hk hf
  have hr : r = .octets octets := congrArg Prod.fst (hf.trans h)
  rw [hr] at hx
  unfold bodyCalls
  rwa [Content.perform_read hx maxIdle]

theorem readEach_uses {sizes : List Nat} {got : List Octets} (h : readEach sizes s = (got.map .octets, t))
    (maxIdle : Duration) :
    results (readOps maxIdle sizes) s = got.map (fun octets => .body (.octets octets)) ∧
      run (readOps maxIdle sizes) s = t ∧ .terminate ∉ runCalls (readOps maxIdle sizes) s := by
  induction sizes generalizing s got with
  | nil =>
    obtain ⟨hg, rfl⟩ := Prod.mk.inj h
    have hn : got = [] := List.map_eq_nil_iff.mp hg.symm
    rw [hn]
    exact ⟨rfl, rfl, nofun⟩
  | cons n sizes ih =>
    obtain ⟨hg, ht⟩ := Prod.mk.inj h
    obtain ⟨octets, got, rfl, hfirst, hrest⟩ := List.map_eq_cons_iff.mp hg.symm
    have hr : Content.read false (some n) s = (.octets octets, (Content.read false (some n) s).2) :=
      Prod.ext hfirst.symm rfl
    obtain ⟨hresults, hrun, hcalls⟩ := ih (Prod.ext hrest.symm ht)
    have hp := perform_read hr maxIdle
    have hc := terminate_read hr maxIdle
    simp only [readOps, List.map_cons, results, run, runCalls, hp, List.mem_append, calls]
    exact ⟨congrArg _ hresults, hrun, fun hm => hm.elim hc hcalls⟩

/-- Reading into buffers of these sizes has brought these octets, the first of a body. -/
structure Brought (body : Octets) (sizes : List Nat) (s : Session ε) (got : List Octets) (t : Session ε) : Prop where
  /-- No read has failed or found that it would have to wait. -/
  reads : readEach sizes s = (got.map .octets, t)
  part : got.flatten <+: body
  ended : [] ∈ got → got.flatten = body
  /-- The next read brings none just when the body was read to its end. -/
  next : ∀ n, 0 < n → ∃ octets u, Content.read false (some n) t = (.octets octets, u) ∧ octets.length ≤ n ∧
    (octets = [] ↔ got.flatten = body)
  uses : ∀ maxIdle, results (readOps maxIdle sizes) s = got.map (fun octets => .body (.octets octets)) ∧
    run (readOps maxIdle sizes) s = t ∧ .terminate ∉ runCalls (readOps maxIdle sizes) s

theorem brought_supplied {sizes : List Nat} (hpulls : ∀ f ∈ faults, f.on ≠ .pull) (h : Supplied faults body s)
    (hsizes : ∀ n ∈ sizes, 0 < n) : ∃ got t, Brought body sizes s got t := by
  obtain ⟨got, rest, t, hr, ht, hbody, hended⟩ := readEach_supplied hpulls h hsizes
  have hend : got.flatten = body ↔ rest = [] := by
    rw [hbody]
    simp
  have hnext : ∀ n, 0 < n → ∃ octets u, Content.read false (some n) t = (.octets octets, u) ∧ octets.length ≤ n ∧
      (octets = [] ↔ got.flatten = body) := by
    intro n hn
    obtain ⟨octets, _, u, hu, _, _, hlength, hempty⟩ := read_supplied hpulls ht hn
    exact ⟨octets, u, hu, hlength, hempty.trans hend.symm⟩
  exact ⟨got, t, hr, ⟨rest, hbody.symm⟩, fun hm => hend.mpr (hended hm), hnext, readEach_uses hr⟩

end Session

namespace Upload

/-- The first pump leaves the whole body to be read. -/
theorem pump_supplied {u : Upload ε} (h : u.Heard) :
    ∃ s, u.session.pump = (.ok (), s) ∧ s.Supplied u.link.faults u.body := by
  obtain ⟨line, hl, hlistens⟩ := h.listens
  have htell : Stream.Listening u.link.faults (Callback.head line.method line.target line.version
      (u.session.stream.translator.translate u.first) ++ .headersComplete :: u.frames.flatMap InFrame.callbacks)
      u.session.stream := by
    rw [bodyFrames_callbacks h.frames, ← List.cons_append, ← List.append_assoc]
    exact ⟨rfl, rfl, hlistens⟩
  have hfresh : u.session.stream.buffer = {} := rfl
  obtain ⟨s, hs, hopen, hstate, hbuffer⟩ := Stream.listening_first hl htell rfl hfresh
  obtain ⟨t, ht, hbody, hstate', hbuffer'⟩ := Stream.listening_headersEnd hopen hstate hbuffer
  have hread : t.state.isReading = true := by rw [hstate']; rfl
  have hsupplied : Stream.Supplied u.link.faults u.body u.frames t := by
    have harriving : Arriving t.state t.buffer.complete u.frames := by
      rw [hbuffer']
      exact .growing hread h.frames
    exact ⟨hbody, harriving, by rw [hbuffer'], by rw [hbuffer']; rfl⟩
  obtain ⟨v, left, hv, hleft, _⟩ := Session.pumpFrames_takes Stream.receive_supplied hsupplied
  have hpump : Session.pumpFrames true (.metadata u.first :: u.frames) u.session.stream = (.ok (), v, left) := by
    rw [← hv, ← Session.pumpFrames_open h.frames hopen.accepted hstate hbuffer ht hbody.accepted hread hbuffer']
    have hreceive : u.session.stream.receive (.metadata u.first) = (.ok (), s) := hs
    simp only [Session.pumpFrames, Session.holds, Bool.false_eq_true, if_false, hreceive]
  have hok : u.session.pump = (.ok (), { u.session with stream := v, inbox := left }) := by
    change u.session.afterDelivery (Session.pumpFrames true (.metadata u.first :: u.frames) u.session.stream) = _
    rw [hpump]
    rfl
  exact ⟨_, hok, hleft, rfl⟩

end Upload

namespace Exchange

variable {σ : Type} [Sink (σ × Link)] {x : Exchange σ} {line : RequestLine} {head : RequestHead}

/-- Nothing has kept the exchange from starting a worker yet. -/
structure Able (x : Exchange σ) : Prop where
  sink : x.sink ≠ none
  line : x.lineError = none
  taken : x.refused = false

theorem listens_body (hr : x.refused = false) (earlier : List Callback) (chunks : List Octets) :
    Engine.Listens faults earlier (chunks.map .chunk ++ [.complete 0]) x := by
  induction chunks generalizing earlier with
  | nil =>
    intro b l _ hl
    exact ⟨rfl, rfl, hl, trivial⟩
  | cons octets chunks ih =>
    intro b l _ hl
    have hcall : Engine.call (.chunk octets) { state := .body, earlier := earlier }
        ({ engine := x, buffer := b, link := l } : Seat (Exchange σ)) =
        (.ok (), { engine := x, buffer := b, link := l }) := by
      simp [Engine.call, receive, hr, Outcome.mapState]
    simp only [Callback.stage, hcall]
    exact ⟨trivial, trivial, hl, ih _⟩

/-- At the end of the header section, a worker is started. -/
theorem listens_headersComplete (hx : x.Able) (hh : x.head = some head) (hn : isNameable head = true)
    (earlier : List Callback) (chunks : List Octets) :
    Engine.Listens faults earlier (.headersComplete :: (chunks.map .chunk ++ [.complete 0])) x := by
  obtain ⟨sink, hsink⟩ := Option.ne_none_iff_exists'.mp hx.sink
  intro b l _ hlink
  have hcall : Engine.call .headersComplete { state := .headersComplete, earlier := earlier }
      ({ engine := x, buffer := b, link := l } : Seat (Exchange σ)) =
      (.ok (), { engine := { x with sink := none, head := none, worker := some (x.workerFor sink head),
                                    started := x.started + 1 },
                 buffer := b, link := l }) := by
    simp [Engine.call, receive, headersComplete, dispatch, hsink, hx.line, hh, hn, Outcome.mapState, workerFor]
  simp only [Callback.stage, hcall]
  exact ⟨trivial, trivial, hlink, listens_body (by exact hx.taken) _ chunks⟩

theorem listens_fields (hx : x.Able) (hh : x.head = some head) (hn : isNameable head = true)
    (earlier : List Callback) (fields : List Field) (chunks : List Octets) :
    Engine.Listens faults earlier
      (fields.map (fun f => .field f.name f.value) ++ .headersComplete :: (chunks.map .chunk ++ [.complete 0])) x := by
  induction fields generalizing x head earlier with
  | nil => exact listens_headersComplete hx hh hn earlier chunks
  | cons f fields ih =>
    intro b l _ hlink
    have hf : (x.field f.name f.value).head = some (head.withField f.name f.value) := by simp [field, hh]
    have hable : (x.field f.name f.value).Able := ⟨hx.sink, hx.line, hx.taken⟩
    exact ⟨rfl, rfl, hlink, ih hable hf hn _⟩

/-- An exchange listens to every request whose line makes sense. -/
theorem listens (hx : x.Able) (hh : RequestHead.ofRequestLine line.method line.target line.version = .ok head)
    (hn : isNameable head = true) (fields : List Field) (chunks : List Octets) :
    Engine.Listens faults [] (Callback.request line.method line.target line.version fields chunks) x := by
  have hstart : x.start line.method line.target line.version = { x with head := some head } := by
    simp [start, hh]
  have hable : ({ x with head := some head } : Exchange σ).Able := ⟨hx.sink, hx.line, hx.taken⟩
  have hrest : Engine.Listens faults [.start line.method line.target line.version]
      (fields.map (fun f => .field f.name f.value) ++ .headersComplete :: (chunks.map .chunk ++ [.complete 0]))
      { x with head := some head } := listens_fields hable rfl hn _ fields chunks
  rw [← List.cons_append, ← List.append_assoc, ← hstart] at hrest
  intro b l _ hlink
  exact ⟨rfl, rfl, hlink, hrest⟩

end Exchange

theorem Upload.heard_by_exchange {σ : Type} [Sink (σ × Link)] {u : Upload (Exchange σ)} {line : RequestLine}
    {head : RequestHead} (hf : BodyFrames u.frames) (hp : ∀ f ∈ u.link.faults, f.on ≠ .pull)
    (hl : RequestLine.ofHeaders u.first = .ok line) (hx : u.engine.Able)
    (hh : RequestHead.ofRequestLine line.method line.target line.version = .ok head)
    (hn : Exchange.isNameable head = true) : u.Heard :=
  ⟨hf, hp, line, hl, Exchange.listens hx hh hn _ _⟩

namespace Session

open Upload

/-- After the first pump, reads into buffers of any sizes bring the body of a request in order and end just
when it was brought as a whole, and none of them fails, waits or terminates the session. So neither the sizes
of the reads nor the cuts between the frames show in what was read. -/
theorem body_read {u : Upload ε} (hu : u.Heard) :
    ∃ s, u.session.pump = (.ok (), s) ∧
      (∀ sizes : List Nat, (∀ n ∈ sizes, 0 < n) → ∃ got t, Brought u.body sizes s got t) ∧
      ∀ v : Upload ε, v.Heard → v.body = u.body →
        ∀ sizes others : List Nat, (∀ n ∈ sizes, 0 < n) → (∀ n ∈ others, 0 < n) →
          ∃ got found : List Octets, (readEach sizes s).1 = got.map .octets ∧
            (readEach others v.session.pump.2).1 = found.map .octets ∧
            (got.flatten <+: found.flatten ∨ found.flatten <+: got.flatten) ∧
            ([] ∈ got → [] ∈ found → got.flatten = found.flatten) := by
  obtain ⟨s, hs, hsupplied⟩ := pump_supplied hu
  refine ⟨s, hs, fun _ => brought_supplied hu.pulls hsupplied, ?_⟩
  intro v hv hsame sizes others hsizes hothers
  obtain ⟨t, ht, htold⟩ := pump_supplied hv
  obtain ⟨got, _, hgot⟩ := brought_supplied hu.pulls hsupplied hsizes
  obtain ⟨found, _, hfound⟩ := brought_supplied hv.pulls htold hothers
  rw [hsame] at hfound
  rw [ht]
  exact ⟨got, found, congrArg Prod.fst hgot.reads, congrArg Prod.fst hfound.reads,
    List.prefix_or_prefix_of_prefix hgot.part hfound.part, fun h h' => (hgot.ended h).trans (hfound.ended h').symm⟩

/-- One body in two cuts, one of them with a frame without octets, read into buffers of different sizes. -/
theorem cuts_read_alike :
    let first := Headers.ofPairs [("method", "POST"), ("url", "/a"), ("version", "HTTP/1.1")]
    let u : Upload (Exchange ReplyState) :=
      { settings := { synthesizeHost := false }
        engine := { handler := [], sink := some { version := .http11 } }
        first := first
        frames := [.body [1, 2, 3] false, .body [] false, .body [4, 5] true, .streamEnd] }
    let v : Upload (Exchange ReplyState) := { u with frames := [.body [1, 2, 3, 4, 5] false, .streamEnd] }
    u.Heard ∧ v.Heard ∧ u.body = [1, 2, 3, 4, 5] ∧ v.body = u.body ∧
      ∃ s, u.session.pump = (.ok (), s) ∧ (∃ got t, Brought u.body [2, 5, 3, 1] s got t) ∧
        ∃ got found : List Octets, (readEach [2, 5, 3, 1] s).1 = got.map .octets ∧
          (readEach [4, 4, 4] v.session.pump.2).1 = found.map .octets ∧
          got = [[1, 2], [3], [4, 5], []] ∧ found = [[1, 2, 3, 4], [5], []] ∧ got.flatten = found.flatten := by
  intro first u v
  have hline : RequestLine.ofHeaders first = .ok ⟨"POST", "/a", "HTTP/1.1"⟩ := by
    simp only [first]
    rfl
  have hable : u.engine.Able := ⟨nofun, rfl, rfl⟩
  have hhead : RequestHead.ofRequestLine "POST" "/a" "HTTP/1.1" =
      .ok { method := .post, target := "/a", version := .http11 } := rfl
  have hname : Exchange.isNameable { method := .post, target := "/a", version := .http11 } = true := by decide +kernel
  have hpulls : ∀ f ∈ u.link.faults, f.on ≠ .pull := fun _ hf => absurd hf List.not_mem_nil
  have hu : u.Heard := heard_by_exchange (.more _ (.more _ (.last _))) hpulls hline hable hhead hname
  have hv : v.Heard := heard_by_exchange (.more _ .ended) hpulls hline hable hhead hname
  obtain ⟨s, hs, hreads, hcuts⟩ := body_read hu
  obtain ⟨got, found, hgot, hfound, _, hsame⟩ := hcuts v hv rfl [2, 5, 3, 1] [4, 4, 4] (by decide) (by decide)
  have hr : (readEach [2, 5, 3, 1] u.session.pump.2).1 = [[1, 2], [3], [4, 5], []].map .octets := by decide +kernel
  have hr' : (readEach [4, 4, 4] v.session.pump.2).1 = [[1, 2, 3, 4], [5], []].map .octets := by decide +kernel
  have hinj : ∀ a b : Octets, Read.octets a = Read.octets b → a = b := fun _ _ => Read.octets.inj
  rw [hs] at hr
  have hg := (List.map_inj_right hinj).mp (hgot.symm.trans hr)
  have hf := (List.map_inj_right hinj).mp (hfound.symm.trans hr')
  have hall : got.flatten = found.flatten := hsame (by simp [hg]) (by simp [hf])
  exact ⟨hu, hv, rfl, rfl, s, hs, hreads [2, 5, 3, 1] (by decide), got, found, hgot, hfound, hg, hf, hall⟩

end Session

end FramedHttp
