import FramedHttp.Proofs.Stream.HeaderSection

/-!
# Requests refused by the stream

The first metadata decides. Where it lacks a part of the request line, the stream answers by itself, whether
or not its answer can be sent, and is done: no engine is told of the request, and whatever still arrives is
taken and ignored. Nothing else makes a stream refuse its request.
-/

set_option autoImplicit false

namespace FramedHttp

/-- The call moves the stream on, other than those that a reader or the session makes beside it. -/
def StreamCall.drives : StreamCall → Bool
  | .receive _ => true
  | .dispatch => true
  | _ => false

/-- The link after the pulls and the terminations among these calls. -/
def Link.after (calls : List StreamCall) (l : Link) : Link :=
  { l with
    pulls := l.pulls + calls.count .pull
    terminations := l.terminations + calls.count .terminate }

theorem Link.after_cons (c : StreamCall) (calls : List StreamCall) (l : Link) :
    after (c :: calls) l = after calls (after [c] l) := by
  simp only [after, List.count_cons, List.count_nil]
  congr 1 <;> omega

theorem Link.after_receive (frame : InFrame) (calls : List StreamCall) (l : Link) :
    after (.receive frame :: calls) l = after calls l := by
  simp [after]

theorem Link.sendReply_apart (headers : Headers) (close : Bool) (l : Link) :
    (l.sendReply headers close).2.pulls = l.pulls ∧
      (l.sendReply headers close).2.terminations = l.terminations := by
  change (deliver _ (l.outcome .reply l.replies) _).pulls = _ ∧
    (deliver _ (l.outcome .reply l.replies) _).terminations = _
  cases l.outcome .reply l.replies <;> exact ⟨rfl, rfl⟩

/-- What is sent does not depend on pulls and terminations. -/
theorem Link.sendReply_after (headers : Headers) (close : Bool) (calls : List StreamCall) (l : Link) :
    ((l.after calls).sendReply headers close).2 = (l.sendReply headers close).2.after calls := by
  change deliver _ (l.outcome .reply l.replies) _ = after calls (deliver _ (l.outcome .reply l.replies) _)
  cases l.outcome .reply l.replies <;> rfl

/-- Engines that leave it to others to end the session. -/
def Engine.SparesSession (ε : Type) [Engine ε] : Prop :=
  ∀ (cb : Callback) (occasion : Occasion) (s : Seat ε),
    (Engine.call cb occasion s).2.link.terminations = s.link.terminations

theorem Recorder.spares_session : Engine.SparesSession Recorder := by
  intro cb occasion s
  simp only [Engine.call, Recorder.call]
  split <;> rfl

/-- A part of the request line is missing. -/
def RequestLine.Incomplete (h : Headers) : Prop :=
  h.get? "method" = none ∨ h.get? "url" = none ∨ h.get? "version" = none

theorem RequestLine.field_ok {h : Headers} {name value : String} (hv : h.get? name = some value) :
    field h name = .ok value := by
  simp only [field, hv]

theorem RequestLine.field_missing {h : Headers} {name : String} (hv : h.get? name = none) :
    field h name = .error (.malformedRequest ("missing '" ++ name ++ "' field")) := by
  simp only [field, hv]

/-- A request line is read, or a part of it is missing. -/
theorem RequestLine.incomplete_iff {h : Headers} : Incomplete h ↔ ∃ e, ofHeaders h = .error e := by
  unfold Incomplete
  cases hm : h.get? "method" with
  | none => simp [ofHeaders, field_missing hm, bind, Except.bind]
  | some method =>
    cases hu : h.get? "url" with
    | none => simp [ofHeaders, field_ok hm, field_missing hu, bind, Except.bind]
    | some target =>
      cases hv : h.get? "version" with
      | none => simp [ofHeaders, field_ok hm, field_ok hu, field_missing hv, bind, Except.bind]
      | some version => simp [ofHeaders, field_ok hm, field_ok hu, field_ok hv, bind, Except.bind, pure, Except.pure]

namespace Stream

variable {ε : Type}

/-- The stream has refused its request, with an engine that knows nothing of it and a link in this state. -/
structure TurnedAway (engine : ε) (link : Link) (s : Stream ε) : Prop where
  settled : s.pending = false
  rejected : s.rejected = true
  final : s.state = .final
  untold : s.callbacks = []
  complete : s.buffer.complete = true
  engine : s.engine = engine
  link : s.link = link

/-- The answer to a request that the stream refuses. -/
def refusalHeaders (version : Version) : Headers :=
  .ofPairs [("status", "400 Bad Request"), ("version", version.name)]

theorem replyHeaders_badRequest (version : Version) :
    replyHeaders (.ofStatus .badRequest) version = refusalHeaders version := by
  cases version <;> decide +kernel

theorem reject_turned_away {s : Stream ε} (h : s.callbacks = []) (what : String) :
    TurnedAway s.engine (s.link.sendReply (refusalHeaders s.replyVersion) true).2
      (s.reject (.malformedRequest what)).2 := by
  rw [← replyHeaders_badRequest]
  exact ⟨rfl, rfl, rfl, h, rfl, rfl, rfl⟩

variable [Engine ε]

/-- A stream that has refused its request does nothing more by itself. -/
theorem rejected_call {s : Stream ε} (hr : s.rejected = true) (hp : s.pending = false) {c : StreamCall}
    (hc : c.drives = true) : s.call c = (.ok (), s) := by
  cases c with
  | receive frame => exact receive_rejected hr frame
  | dispatch => exact dispatch_settled s hp
  | _ => cases hc

section Runs

variable {translator : Translator} {s : Stream ε} {engine : ε} {link : Link}

theorem turned_away_call (hs : TurnedAway engine link s) (c : StreamCall) :
    TurnedAway engine (link.after [c]) (s.call c).2 := by
  obtain ⟨hp, hr, hf, hu, hc, he, rfl⟩ := hs
  cases c with
  | receive frame =>
    rw [rejected_call hr hp rfl]
    exact ⟨hp, hr, hf, hu, hc, he, rfl⟩
  | dispatch =>
    rw [rejected_call hr hp rfl]
    exact ⟨hp, hr, hf, hu, hc, he, rfl⟩
  | release n =>
    simp only [call, release]
    split
    · next b hb =>
      obtain ⟨_, rfl⟩ := Content.Buffer.release?_eq_some_iff.mp hb
      exact ⟨hp, hr, hf, hu, hc, he, rfl⟩
    · exact ⟨hp, hr, hf, hu, hc, he, rfl⟩
  | discard => exact ⟨hp, hr, hf, hu, hc, he, rfl⟩
  | pull => exact ⟨hp, hr, hf, hu, hc, he, rfl⟩
  | terminate => exact ⟨hp, hr, hf, hu, hc, he, rfl⟩

theorem turned_away_replay (hs : TurnedAway engine link s) (calls : List StreamCall) :
    TurnedAway engine (link.after calls) (s.replay calls) := by
  induction calls generalizing s link with
  | nil => exact hs
  | cons c calls ih =>
    rw [Link.after_cons]
    exact ih (turned_away_call hs c)

/-- Before the first metadata a call is the session's own business. -/
theorem unbegun_outside (hs : Unbegun translator s) {c : StreamCall} (hc : opens? c = none) :
    (s.call c).2.engine = s.engine ∧ (s.call c).2.replyVersion = s.replyVersion ∧
      (s.call c).2.link = s.link.after [c] := by
  cases c with
  | receive frame =>
    rw [call, (unbegun_receive hs hc).1]
    exact ⟨rfl, rfl, rfl⟩
  | dispatch =>
    rw [call, dispatch_settled s hs.settled]
    exact ⟨rfl, rfl, rfl⟩
  | release n =>
    simp only [call, release]
    split <;> exact ⟨rfl, rfl, rfl⟩
  | discard => exact ⟨rfl, rfl, rfl⟩
  | pull => exact ⟨rfl, rfl, rfl⟩
  | terminate => exact ⟨rfl, rfl, rfl⟩

/-- Without metadata that is incomplete no request is refused. -/
theorem replay_accepted (hs : Unbegun translator s) {calls : List StreamCall}
    (h : ∀ first, firstMetadata calls = some first → ∃ line, RequestLine.ofHeaders first = .ok line) :
    (s.replay calls).rejected = false := by
  induction calls generalizing s with
  | nil => exact hs.accepted
  | cons c calls ih =>
    cases ho : opens? c with
    | none =>
      rw [firstMetadata, List.findSome?_cons_of_isNone (by simp [ho])] at h
      exact ih (unbegun_call hs ho).1 h
    | some first =>
      obtain ⟨line, hl⟩ := h first (by simp [firstMetadata, ho])
      obtain ⟨rfl, hne⟩ := opens?_eq_some ho
      have hu : Underway translator (s.onMetadata first).2 := first_underway hs hne hl
      have hreplay : s.replay (.receive (.metadata first) :: calls) = (s.onMetadata first).2.replay calls := rfl
      rw [hreplay]
      exact ((underway_kept translator).replay hu calls).accepted

/-- The first metadata, where it is incomplete, is answered at once, and then nothing more happens. -/
theorem replay_turned_away (hs : Unbegun translator s) {calls : List StreamCall} {first : Headers}
    {e : StreamError} (hfirst : firstMetadata calls = some first) (hl : RequestLine.ofHeaders first = .error e) :
    TurnedAway s.engine ((s.link.sendReply (refusalHeaders s.replyVersion) true).2.after calls)
      (s.replay calls) := by
  induction calls generalizing s with
  | nil => cases hfirst
  | cons c calls ih =>
    cases ho : opens? c with
    | none =>
      obtain ⟨he, hv, hlink⟩ := unbegun_outside hs ho
      rw [firstMetadata, List.findSome?_cons_of_isNone (by simp [ho])] at hfirst
      have hrest := ih (unbegun_call hs ho).1 hfirst
      rwa [he, hv, hlink, Link.sendReply_after, ← Link.after_cons] at hrest
    | some headers =>
      have hh : headers = first := by simpa [firstMetadata, ho] using hfirst
      obtain ⟨rfl, hne⟩ := opens?_eq_some (hh ▸ ho)
      obtain ⟨what, rfl⟩ := RequestLine.error_malformed hl
      have ht : TurnedAway s.engine (s.link.sendReply (refusalHeaders s.replyVersion) true).2
          (s.onMetadata first).2 := by
        rw [onMetadata_first hs.accepted hs.initial hne, run_incomplete s hl]
        exact reject_turned_away (s := s.opening first) hs.untold what
      have hreplay : s.replay (.receive (.metadata first) :: calls) = (s.onMetadata first).2.replay calls := rfl
      rw [hreplay, Link.after_receive]
      exact turned_away_replay ht calls

end Runs

section Terminations

variable (hε : Engine.SparesSession ε)
include hε

theorem call_terminations {s : Stream ε} (hp : s.pending = false) (c : StreamCall) :
    (s.call c).2.link.terminations = s.link.terminations + [c].count .terminate := by
  cases c with
  | receive frame =>
    have hm : ∀ {t : Stream ε}, Moves s t → t.link.terminations = s.link.terminations := by
      intro t h
      induction h with
      | refl => rfl
      | tail _ hm ih =>
        apply move_seat (R := fun seat => seat.link.terminations = s.link.terminations) _ _ _ _ ih hm
        · intro cb occasion seat hs
          exact (hε cb occasion seat).trans hs
        · intro _ _ _ _ hs _
          exact hs
        · intro _ hs
          exact hs
        · intro seat headers hs
          exact (Link.sendReply_apart headers true seat.link).2.trans hs
    exact hm (receive_moves frame s)
  | dispatch =>
    simp only [call, dispatch_settled s hp]
    rfl
  | release n =>
    simp only [call, release]
    split <;> rfl
  | discard => rfl
  | pull => rfl
  | terminate => rfl

/-- Sessions are ended by nothing that a stream does. -/
theorem replay_terminations {s : Stream ε} (hp : s.pending = false) (calls : List StreamCall) :
    (s.replay calls).link.terminations = s.link.terminations + calls.count .terminate := by
  induction calls generalizing s with
  | nil => rfl
  | cons c calls ih =>
    have hc := call_terminations hε hp c
    rw [replay, ih (settled_kept.call hp c), hc, Nat.add_assoc, Nat.add_comm ([c].count _), ← List.count_append]
    simp [List.count_append, List.count_cons]

end Terminations

/-- A stream refuses its request exactly when the first metadata lacks a part of the request line. It then has
told the engine nothing, has attempted one reply over the link and no other frame, whether or not that could
be sent, and has reached its last stage with the body marked complete; whatever drives it after that is taken
and changes nothing. The session is never ended by a stream. -/
theorem malformed_refused (settings : Settings) (link : Link) (engine : ε) (calls : List StreamCall) :
    let start := new settings link engine
    let s := start.replay calls
    let reply := Headers.ofPairs [("status", "400 Bad Request"), ("version", settings.replyVersion.name)]
    (s.rejected = true ↔ ∃ first, firstMetadata calls = some first ∧
      (first.get? "method" = none ∨ first.get? "url" = none ∨ first.get? "version" = none)) ∧
    (s.rejected = true →
      s.callbacks = [] ∧ s.engine = engine ∧ s.state = .final ∧ s.buffer.complete = true ∧
      s.link = { (link.sendReply reply true).2 with
        pulls := link.pulls + calls.count .pull
        terminations := link.terminations + calls.count .terminate } ∧
      ∀ c : StreamCall, c.drives = true → s.call c = (.ok (), s)) ∧
    (Engine.SparesSession ε → s.link.terminations = link.terminations + calls.count .terminate) := by
  intro start s reply
  have hs : Unbegun settings.toTranslator start := ⟨rfl, rfl, rfl, rfl, rfl⟩
  obtain ⟨hpulls, hterminations⟩ := Link.sendReply_apart reply true link
  have hrefused : ∀ first, firstMetadata calls = some first → RequestLine.Incomplete first →
      TurnedAway engine ((link.sendReply reply true).2.after calls) s := by
    intro first hfirst hi
    obtain ⟨e, he⟩ := RequestLine.incomplete_iff.mp hi
    exact replay_turned_away hs hfirst he
  have hdecided : s.rejected = true → ∃ first, firstMetadata calls = some first ∧ RequestLine.Incomplete first := by
    intro hr
    cases hfirst : firstMetadata calls with
    | none =>
      have ha : s.rejected = false := replay_accepted hs (by simp [hfirst])
      exact absurd (hr.symm.trans ha) (by decide)
    | some first =>
      cases hl : RequestLine.ofHeaders first with
      | ok line =>
        have ha : s.rejected = false := replay_accepted hs (by simp [hfirst, hl])
        exact absurd (hr.symm.trans ha) (by decide)
      | error e => exact ⟨first, rfl, RequestLine.incomplete_iff.mpr ⟨e, hl⟩⟩
  refine ⟨⟨hdecided, ?_⟩, ?_, ?_⟩
  · rintro ⟨first, hfirst, hi⟩
    exact (hrefused first hfirst hi).rejected
  · intro hr
    obtain ⟨first, hfirst, hi⟩ := hdecided hr
    have h := hrefused first hfirst hi
    have hlink := h.link
    rw [Link.after, hpulls, hterminations] at hlink
    exact ⟨h.untold, h.engine, h.final, h.complete, hlink, fun c hc => rejected_call h.rejected h.settled hc⟩
  · intro hε
    exact replay_terminations hε rfl calls

/-- A request without a target, whose answer is lost. -/
theorem refused_without_target :
    let link : Link := { faults := [⟨.reply, 0, .transport "gone"⟩] }
    let calls : List StreamCall := [.receive .streamEnd, .receive (.metadata .empty), .pull,
      .receive (.metadata (.ofPairs [("method", "GET"), ("version", "HTTP/1.1")])), .receive (.body [1] true)]
    let s := (new {} link ({} : Recorder)).replay calls
    s.rejected = true ∧ s.callbacks = [] ∧ s.state = .final ∧ s.link.sent = [] ∧ s.link.replies = 1 ∧
      s.link.terminations = 0 ∧ s.call (.receive .streamEnd) = (.ok (), s) := by
  intro link calls s
  obtain ⟨hiff, hrefused, hspared⟩ := malformed_refused {} link ({} : Recorder) calls
  have hr : s.rejected = true :=
    hiff.mpr ⟨.ofPairs [("method", "GET"), ("version", "HTTP/1.1")], rfl, .inr (.inl (by decide +kernel))⟩
  obtain ⟨hu, _, hf, _, hlink, hstays⟩ := hrefused hr
  have hsent : s.link.sent = [] := by rw [show s.link = _ from hlink]; decide +kernel
  have hreplies : s.link.replies = 1 := by rw [show s.link = _ from hlink]; decide +kernel
  exact ⟨hr, hu, hf, hsent, hreplies, hspared Recorder.spares_session, hstays _ rfl⟩

end Stream

end FramedHttp
