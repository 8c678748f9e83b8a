import FramedHttp.Proofs.Stream.BodyEnd

/-!
# Blocking waits

A reader that waits looks, asks for frames once if there is nothing to find, and looks again after whatever
arrives; when the time is over it gives the session up. What a transport does when it is asked, and what
arrives meanwhile, is left open here. A session with an inbox is one such transport.
-/

set_option autoImplicit false

namespace FramedHttp

open Content

/-- What a reader does while it waits: it looks, asks for frames, and gives the session up. -/
structure Waiting (γ : Type) where
  look : γ → Await StreamError
  pull : γ → Outcome StreamError γ
  terminate : γ → Outcome StreamError γ

namespace Waiting

variable {γ : Type}

/-- Looks before each arrival and once more when the time is over, up to the first look that finds something. -/
def attend (w : Waiting γ) : List (γ → γ) → γ → Await StreamError × γ
  | [], s => (w.look s, s)
  | arrive :: rest, s =>
    match w.look s with
    | .waiting => w.attend rest (arrive s)
    | found => (found, s)

/-- The time is over where there is still nothing to find, whether or not the session can be terminated. -/
def settle (w : Waiting γ) (maxIdle : Duration) :
    Await StreamError × γ → Except StreamError (Option Octets) × γ
  | (.content octets, s) => (.ok (some octets), s)
  | (.ended, s) => (.ok none, s)
  | (.failed e, s) => (.error e, s)
  | (.waiting, s) => (.error (.readTimeout maxIdle), (w.terminate s).2)

/-- One blocking wait with its arrivals. -/
def block (w : Waiting γ) (arrivals : List (γ → γ)) (maxIdle : Duration) (s : γ) :
    Except StreamError (Option Octets) × γ :=
  match w.look s with
  | .waiting =>
    match w.pull s with
    | (.error e, s) => (.error e, s)
    | (.ok _, s) => w.settle maxIdle (w.attend arrivals s)
  | found => w.settle maxIdle (found, s)

/-- The same, with a log of the calls that the reader makes. -/
def logged (w : Waiting γ) : Waiting (γ × List LinkCall) where
  look x := w.look x.1
  pull x := (w.pull x.1).mapState (·, x.2 ++ [.pull])
  terminate x := (w.terminate x.1).mapState (·, x.2 ++ [.terminate])

/-- What arrives makes no calls of the reader. -/
def beside (arrive : γ → γ) (x : γ × List LinkCall) : γ × List LinkCall :=
  (arrive x.1, x.2)

variable {w : Waiting γ} {arrivals : List (γ → γ)} {maxIdle : Duration} {s t : γ}

theorem block_found (h : w.look s ≠ .waiting) :
    w.block arrivals maxIdle s = w.settle maxIdle (w.look s, s) := by
  unfold block
  split
  · next hw => exact absurd hw h
  · rfl

theorem block_failed (h : w.look s = .waiting) {e : StreamError} (hp : w.pull s = (.error e, t)) :
    w.block arrivals maxIdle s = (.error e, t) := by
  simp only [block, h, hp]

theorem block_attended (h : w.look s = .waiting) (hp : w.pull s = (.ok (), t)) :
    w.block arrivals maxIdle s = w.settle maxIdle (w.attend arrivals t) := by
  simp only [block, h, hp]

theorem settle_found {found : Await StreamError} (h : found ≠ .waiting) :
    (w.settle maxIdle (found, s)).2 = s := by
  cases found with
  | waiting => exact absurd rfl h
  | _ => rfl

/-- The reader goes on with what it finds after some of the arrivals, and after all of them if it finds nothing. -/
theorem attend_eq (w : Waiting γ) (arrivals : List (γ → γ)) (s : γ) :
    ∃ n, let t := (arrivals.take n).foldl (fun s arrive => arrive s) s
      w.attend arrivals s = (w.look t, t) ∧ (w.look t = .waiting → arrivals.length ≤ n) := by
  induction arrivals generalizing s with
  | nil => exact ⟨0, rfl, fun _ => Nat.le_refl 0⟩
  | cons arrive rest ih =>
    by_cases h : w.look s = .waiting
    · obtain ⟨n, ht, hn⟩ := ih (arrive s)
      have ha : w.attend (arrive :: rest) s = w.attend rest (arrive s) := by simp only [attend, h]
      exact ⟨n + 1, ha.trans ht, fun hw => Nat.succ_le_succ (hn hw)⟩
    · have ha : w.attend (arrive :: rest) s = (w.look s, s) := by
        unfold attend
        split
        · next hw => exact absurd hw h
        · rfl
      exact ⟨0, ha, fun hw => absurd hw h⟩

theorem logged_attend (w : Waiting γ) (arrivals : List (γ → γ)) (s : γ) (log : List LinkCall) :
    w.logged.attend (arrivals.map beside) (s, log) =
      ((w.attend arrivals s).1, (w.attend arrivals s).2, log) := by
  induction arrivals generalizing s with
  | nil => rfl
  | cons arrive rest ih =>
    rw [List.map_cons, attend, attend]
    change (match w.look s with
      | .waiting => w.logged.attend (rest.map beside) (beside arrive (s, log))
      | found => (found, s, log)) = _
    cases w.look s with
    | waiting => exact ih (arrive s)
    | _ => rfl

/-- How a wait can go, with the calls that the reader makes. -/
inductive Course (w : Waiting γ) (arrivals : List (γ → γ)) (maxIdle : Duration) (s : γ) :
    Except StreamError (Option Octets) × γ → List LinkCall → Prop
  | found (h : w.look s ≠ .waiting) : Course w arrivals maxIdle s (w.settle maxIdle (w.look s, s)) []
  | failed {e : StreamError} {t : γ} (h : w.look s = .waiting) (hp : w.pull s = (.error e, t)) :
      Course w arrivals maxIdle s (.error e, t) [.pull]
  | answered {t u : γ} {n : Nat} (h : w.look s = .waiting) (hp : w.pull s = (.ok (), t))
      (ht : (arrivals.take n).foldl (fun s arrive => arrive s) t = u) (hu : w.look u ≠ .waiting) :
      Course w arrivals maxIdle s (w.settle maxIdle (w.look u, u)) [.pull]
  | expired {t u : γ} (h : w.look s = .waiting) (hp : w.pull s = (.ok (), t))
      (ht : arrivals.foldl (fun s arrive => arrive s) t = u) (hu : w.look u = .waiting) :
      Course w arrivals maxIdle s (.error (.readTimeout maxIdle), (w.terminate u).2) [.pull, .terminate]

/-- However it goes, the reader asks for frames once at most, and to terminate only after that. -/
theorem Course.calls_prefix {r : Except StreamError (Option Octets) × γ} {calls : List LinkCall}
    (h : Course w arrivals maxIdle s r calls) : calls <+: [.pull, .terminate] := by
  cases h with
  | found => exact List.nil_prefix
  | failed | answered => exact ⟨[.terminate], rfl⟩
  | expired => exact List.prefix_rfl

/-- Where something was found, the log stays as it is. -/
theorem logged_settle {found : Await StreamError} (h : found ≠ .waiting) (log : List LinkCall) :
    w.logged.settle maxIdle (found, s, log) = ((w.settle maxIdle (found, s)).1, s, log) := by
  cases found with
  | waiting => exact absurd rfl h
  | _ => rfl

/-- The log changes nothing, and it tells how the wait went. -/
theorem block_course (w : Waiting γ) (arrivals : List (γ → γ)) (maxIdle : Duration) (s : γ) :
    let r := w.logged.block (arrivals.map beside) maxIdle (s, [])
    w.block arrivals maxIdle s = (r.1, r.2.1) ∧ Course w arrivals maxIdle s (w.block arrivals maxIdle s) r.2.2 := by
  intro r
  by_cases h : w.look s = .waiting
  · have hl : w.logged.look (s, []) = .waiting := h
    rcases hp : w.pull s with ⟨e | _, t⟩
    · have hpl : w.logged.pull (s, []) = (.error e, t, [.pull]) := by simp [logged, hp, Outcome.mapState]
      have hr : r = (.error e, t, [.pull]) := block_failed hl hpl
      rw [block_failed h hp, hr]
      exact ⟨rfl, .failed h hp⟩
    · have hpl : w.logged.pull (s, []) = (.ok (), t, [.pull]) := by simp [logged, hp, Outcome.mapState]
      obtain ⟨n, ha, hn⟩ := attend_eq w arrivals t
      have hr : r = w.logged.settle maxIdle ((w.attend arrivals t).1, (w.attend arrivals t).2, [.pull]) :=
        (block_attended hl hpl).trans (congrArg _ (logged_attend w arrivals t [.pull]))
      rw [block_attended h hp, hr, ha]
      by_cases hu : w.look ((arrivals.take n).foldl (fun s arrive => arrive s) t) = .waiting
      · have hall : arrivals.take n = arrivals := List.take_of_length_le (hn hu)
        rw [hall] at hu ⊢
        rw [hu]
        exact ⟨rfl, .expired h hp rfl hu⟩
      · rw [logged_settle hu]
        exact ⟨Prod.ext rfl (settle_found hu), .answered h hp rfl hu⟩
  · have hr : r = w.logged.settle maxIdle (w.look s, s, []) := block_found h
    rw [block_found h, hr, logged_settle h]
    exact ⟨Prod.ext rfl (settle_found h), .found h⟩

end Waiting

open FramedHttp.Stream

namespace Session

variable {ε : Type}

/-- There is nothing to find yet. -/
def Starved (s : Session ε) : Prop :=
  s.buffer.fragment = [] ∧ s.buffer.complete = false

/-- What can happen to a session in the meantime: it is used, or its transport changes. -/
inductive Happening where
  | use (op : SessionOp)
  | relink (link : Link)

theorem look_early {s : Session ε} (hs : ¬ s.stream.state.canBlock = true) :
    s.look = .failed (.illegalState .blockUntilContent s.stream.state) :=
  if_neg hs

theorem look_waiting_iff {s : Session ε} : s.look = .waiting ↔ s.stream.state.canBlock = true ∧ Starved s := by
  unfold look Starved
  by_cases hs : s.stream.state.canBlock = true
  · by_cases hd : s.buffer.fragment = []
    · have hd' : s.buffer.isDrained = true := Buffer.isDrained_iff.mpr hd
      cases s.buffer.complete <;> simp [hs, hd, hd']
    · have hd' : ¬ s.buffer.isDrained = true := fun h => hd (Buffer.isDrained_iff.mp h)
      simp [hs, hd, hd']
  · simp [hs]

theorem look_fed {s : Session ε} (hs : s.stream.state.canBlock = true) (h : ¬ Starved s) :
    s.look = finding s.buffer.unread? := by
  unfold look Buffer.unread?
  rw [if_pos hs]
  by_cases hd : s.buffer.isDrained = true
  · have hc : s.buffer.complete = true :=
      Bool.of_not_eq_false fun hc => h ⟨Buffer.isDrained_iff.mp hd, hc⟩
    rw [if_pos hd, if_pos hc, if_pos hd]
    rfl
  · rw [if_neg hd, if_neg hd]
    rfl

theorem finding_ne_waiting (answer : Option Octets) : finding answer ≠ .waiting := by
  cases answer <;> exact nofun

theorem settle_finding (w : Waiting (Session ε)) (maxIdle : Duration) (answer : Option Octets) (s : Session ε) :
    w.settle maxIdle (finding answer, s) = (.ok answer, s) := by
  cases answer <;> rfl

variable [Engine ε]

def undergo : List Happening → Session ε → Session ε
  | [], s => s
  | .use op :: rest, s => undergo rest (s.perform op).2
  | .relink link :: rest, s => undergo rest (s.withLink link)

theorem undergo_append (happenings rest : List Happening) (s : Session ε) :
    undergo (happenings ++ rest) s = undergo rest (undergo happenings s) := by
  induction happenings generalizing s with
  | nil => rfl
  | cons happening happenings ih => cases happening <;> exact ih _

/-- What a transport does when it is asked for frames, or to terminate the session, with its answer. -/
structure Transport (ε : Type) where
  pull : Session ε → Except StreamError Unit × List Happening
  terminate : Session ε → Except StreamError Unit × List Happening

/-- A reader on a transport. -/
def Transport.waiting (x : Transport ε) : Waiting (Session ε) where
  look := look
  pull s := ((x.pull s).1, undergo (x.pull s).2 s)
  terminate s := ((x.terminate s).1, undergo (x.terminate s).2 s)

/-- The link of the session, with its inbox. -/
def Transport.ofLink : Transport ε where
  pull s :=
    match s.link.pull with
    | (.ok _, l) => ((s.withLink l).pump.1, [.relink l, .use .pump])
    | (.error e, l) => (.error e, [.relink l])
  terminate s := (s.link.terminate.1, [.relink s.link.terminate.2])

theorem ofLink_pull (s : Session ε) : Transport.ofLink.waiting.pull s = s.pull := by
  rcases h : s.link.pull with ⟨e | _, l⟩ <;> simp only [pull, Transport.waiting, Transport.ofLink, h] <;> rfl

/-- The blocking wait of a session is the one of a reader on its link. -/
theorem blockDuring_eq (arrive : Session ε → Session ε) (maxIdle : Duration) (s : Session ε) :
    s.blockDuring arrive maxIdle = Transport.ofLink.waiting.block [arrive] maxIdle s := by
  have hs : ∀ x : Await StreamError × Session ε,
      settle maxIdle x = Transport.ofLink.waiting.settle maxIdle x := by
    rintro ⟨_ | _ | _ | _, t⟩ <;> rfl
  have hlook : Transport.ofLink.waiting.look s = s.look := rfl
  unfold blockDuring await Waiting.block
  rw [ofLink_pull, hlook]
  cases s.look with
  | waiting =>
    rcases s.pull with ⟨e | _, t⟩
    · rfl
    · have ht : Transport.ofLink.waiting.look t = t.look := rfl
      simp only [Waiting.attend, ht, Bool.false_eq_true, if_false]
      cases t.look with
      | waiting =>
        simp only [hs]
        rfl
      | _ => simp only [hs]
  | _ => rfl

/-- Whatever can happen in the meantime keeps what every use and every change of the link keeps. -/
theorem undergo_keeps {P : Stream ε → Prop} (hP : Stream.Kept P)
    (hl : ∀ {s : Stream ε} l, P s → P (s.withLink l))
    (happenings : List Happening) {s : Session ε} (hs : P s.stream) : P (undergo happenings s).stream := by
  induction happenings generalizing s with
  | nil => exact hs
  | cons happening rest ih =>
    cases happening with
    | use op => exact ih (run_keeps hP [op] hs)
    | relink link => exact ih (hl link hs)

theorem foldl_undergo (arrivals : List (List Happening)) (s : Session ε) :
    (arrivals.map undergo).foldl (fun s arrive => arrive s) s = undergo arrivals.flatten s := by
  induction arrivals generalizing s with
  | nil => rfl
  | cons happenings rest ih =>
    rw [List.map_cons, List.foldl_cons, ih, List.flatten_cons, undergo_append]

section Courses

variable {x : Transport ε} {arrivals : List (List Happening)} {maxIdle : Duration} {s : Session ε}
  {r : Except StreamError (Option Octets) × Session ε} {calls : List LinkCall}
  (h : Waiting.Course x.waiting (arrivals.map undergo) maxIdle s r calls)
include h

theorem course_early (hs : ¬ s.stream.state.canBlock = true) :
    r.1 = .error (.illegalState .blockUntilContent s.stream.state) ∧ r.2 = s ∧ calls = [] := by
  have hl : x.waiting.look s = .failed (.illegalState .blockUntilContent s.stream.state) := look_early hs
  cases h with
  | found =>
    rw [hl]
    exact ⟨rfl, rfl, rfl⟩
  | failed hw | answered hw | expired hw => cases hl.symm.trans hw

theorem course_fed (hs : s.stream.state.canBlock = true) (hf : ¬ Starved s) :
    r.1 = .ok s.buffer.unread? ∧ r.2 = s ∧ calls = [] := by
  have hl : x.waiting.look s = finding s.buffer.unread? := look_fed hs hf
  cases h with
  | found =>
    rw [hl, settle_finding]
    exact ⟨rfl, rfl, rfl⟩
  | failed hw | answered hw | expired hw => exact absurd (hl.symm.trans hw) (finding_ne_waiting _)

theorem course_failed (hs : s.stream.state.canBlock = true) (hf : Starved s) (e : StreamError)
    (he : (x.pull s).1 = .error e) : r.1 = .error e ∧ r.2 = undergo (x.pull s).2 s ∧ calls = [.pull] := by
  have hl : x.waiting.look s = .waiting := look_waiting_iff.mpr ⟨hs, hf⟩
  have hp : x.waiting.pull s = (.error e, undergo (x.pull s).2 s) := Prod.ext he rfl
  cases h with
  | found hw => exact absurd hl hw
  | failed _ hp' =>
    cases hp.symm.trans hp'
    exact ⟨rfl, rfl, rfl⟩
  | answered _ hp' | expired _ hp' => cases hp.symm.trans hp'

theorem course_pulled (hs : s.stream.pending = false ∧ s.stream.state.canBlock = true) (hf : Starved s)
    (hok : (x.pull s).1 = .ok ()) :
    let pulled := undergo (x.pull s).2 s
    let waited := undergo arrivals.flatten pulled
    (r.1 = .error (.readTimeout maxIdle) ∧ Starved waited ∧ r.2 = undergo (x.terminate waited).2 waited ∧
      calls = [.pull, .terminate]) ∨
    ∃ n, r.1 = .ok r.2.buffer.unread? ∧ ¬ Starved r.2 ∧ r.2 = undergo (arrivals.take n).flatten pulled ∧
      calls = [.pull] := by
  intro pulled waited
  have hl : x.waiting.look s = .waiting := look_waiting_iff.mpr ⟨hs.2, hf⟩
  have hp : x.waiting.pull s = (.ok (), pulled) := Prod.ext hok rfl
  have hb : ∀ happenings, (undergo happenings pulled).stream.state.canBlock = true := by
    intro happenings
    have hpulled : pulled.stream.pending = false ∧ pulled.stream.state.canBlock = true :=
      undergo_keeps canBlock_kept (fun _ => id) (x.pull s).2 hs
    exact (undergo_keeps canBlock_kept (fun _ => id) happenings hpulled).2
  cases h with
  | found hw => exact absurd hl hw
  | failed _ hp' => cases hp.symm.trans hp'
  | @answered _ u n _ hp' ht hu =>
    cases hp.symm.trans hp'
    rw [← List.map_take, foldl_undergo] at ht
    have hbu : u.stream.state.canBlock = true := ht ▸ hb _
    have hfu : ¬ Starved u := fun hfu => hu (look_waiting_iff.mpr ⟨hbu, hfu⟩)
    have hlu : x.waiting.look u = finding u.buffer.unread? := look_fed hbu hfu
    rw [hlu, settle_finding]
    exact .inr ⟨n, rfl, hfu, ht.symm, rfl⟩
  | expired _ hp' ht hu =>
    cases hp.symm.trans hp'
    rw [foldl_undergo] at ht
    subst ht
    exact .inl ⟨rfl, (look_waiting_iff.mp hu).2, rfl, rfl⟩

/-- An answer tells of the session as it is when the call returns. -/
theorem course_ok (hs : s.stream.pending = false) {answer : Option Octets} (ho : r.1 = .ok answer) :
    ¬ Starved r.2 ∧ answer = r.2.buffer.unread? := by
  by_cases hb : s.stream.state.canBlock = true
  · by_cases hf : Starved s
    · cases hp : (x.pull s).1 with
      | error e => cases ho.symm.trans (course_failed h hb hf e hp).1
      | ok =>
        rcases course_pulled h ⟨hs, hb⟩ hf hp with ⟨hr, _⟩ | ⟨n, hr, hfr, _⟩
        · cases ho.symm.trans hr
        · exact ⟨hfr, Except.ok.inj (ho.symm.trans hr)⟩
    · obtain ⟨hr, ht, _⟩ := course_fed h hb hf
      rw [ht]
      exact ⟨hf, Except.ok.inj (ho.symm.trans hr)⟩
  · cases ho.symm.trans (course_early h hb).1

end Courses

/-- Before the end of the header section a reader may not wait. From then on it is told what is unread, or the
end, of the session as it is when the call returns; it asks for frames once at most and only if there is nothing
to find; it fails with the error of that request, or because there was nothing to find up to the end of the
wait, and then it has asked once to terminate the session. -/
theorem blocking_wait (settings : Settings) (link : Link) (engine : ε) (inbox : List InFrame) (pressure : Bool)
    (before : List Happening) (x : Transport ε) (arrivals : List (List Happening)) (maxIdle : Duration) :
    let start : Session ε := { stream := .new settings link engine, inbox := inbox, pressure := pressure }
    let s := undergo before start
    let r := x.waiting.logged.block ((arrivals.map undergo).map Waiting.beside) maxIdle (s, [])
    let answer := r.1
    let t := r.2.1
    let calls := r.2.2
    let pulled := undergo (x.pull s).2 s
    let waited := undergo arrivals.flatten pulled
    x.waiting.block (arrivals.map undergo) maxIdle s = (answer, t) ∧ calls <+: [.pull, .terminate] ∧
    (s.stream.state.number < Lifecycle.headersComplete.number →
      answer = .error (.illegalState .blockUntilContent s.stream.state) ∧ t = s ∧ calls = []) ∧
    (Lifecycle.headersComplete.number ≤ s.stream.state.number →
      (¬ Starved s → answer = .ok s.buffer.unread? ∧ t = s ∧ calls = []) ∧
      (Starved s → ∀ e, (x.pull s).1 = .error e → answer = .error e ∧ t = pulled ∧ calls = [.pull]) ∧
      (Starved s → (x.pull s).1 = .ok () →
        (answer = .error (.readTimeout maxIdle) ∧ Starved waited ∧ t = undergo (x.terminate waited).2 waited ∧
          calls = [.pull, .terminate]) ∨
        ∃ n, answer = .ok t.buffer.unread? ∧ ¬ Starved t ∧ t = undergo (arrivals.take n).flatten pulled ∧
          calls = [.pull])) ∧
    (∀ octets, answer = .ok (some octets) → octets ≠ [] ∧ t.buffer.fragment = octets) ∧
    (answer = .ok none → t.buffer.complete = true ∧ t.buffer.fragment = []) ∧
    ∀ (arrive : Session ε → Session ε) (u : Session ε),
      u.blockDuring arrive maxIdle = Transport.ofLink.waiting.block [arrive] maxIdle u := by
  intro start s r answer t calls pulled waited
  have hp : s.stream.pending = false := undergo_keeps settled_kept (fun _ => id) before rfl
  obtain ⟨hr, hc⟩ := Waiting.block_course x.waiting (arrivals.map undergo) maxIdle s
  have hblock : x.waiting.block (arrivals.map undergo) maxIdle s = (answer, t) := hr
  rw [hblock] at hc
  constructor
  · exact hblock
  constructor
  · exact hc.calls_prefix
  constructor
  · intro hs
    exact course_early hc fun hb => Nat.not_le_of_lt hs (Lifecycle.canBlock_iff.mp hb)
  constructor
  · intro hs
    have hb : s.stream.state.canBlock = true := Lifecycle.canBlock_iff.mpr hs
    exact ⟨course_fed hc hb, course_failed hc hb, course_pulled hc ⟨hp, hb⟩⟩
  constructor
  · intro octets ho
    exact Buffer.unread?_eq_some_iff.mp (course_ok hc hp ho).2.symm
  constructor
  · intro ho
    obtain ⟨hf, hu⟩ := course_ok hc hp ho
    have hd : t.buffer.fragment = [] := Buffer.unread?_eq_none_iff.mp hu.symm
    exact ⟨Bool.of_not_eq_false fun hk => hf ⟨hd, hk⟩, hd⟩
  · intro arrive u
    exact blockDuring_eq arrive maxIdle u

-- A body frame without octets arrives, and the session cannot be terminated.
example :
    let first := Headers.ofPairs [("method", "POST"), ("url", "/a"), ("version", "HTTP/1.1")]
    let before : List Happening := [.use (.receive (.metadata first)), .use (.receive .headersEnd)]
    let x : Transport Recorder :=
      { pull := fun _ => (.ok (), []), terminate := fun _ => (.error (.transport "gone"), []) }
    let arrive := Waiting.beside (undergo [.use (.receive (.body [] false))])
    let r := x.waiting.logged.block [arrive] (.seconds 1) (undergo before { stream := .new {} {} {} }, [])
    r.1 = .error (.readTimeout (.seconds 1)) ∧ r.2.2 = [.pull, .terminate] := by
  exact ⟨by rfl, by rfl⟩

end Session

end FramedHttp
