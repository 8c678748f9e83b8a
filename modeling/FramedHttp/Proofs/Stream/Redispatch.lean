import FramedHttp.Proofs.Stream.BlockingWait

/-!
# Dispatching again

A dispatch acts while a transition is pending. Only reading the request line makes another transition pending,
and forwarding the fields that come with it makes none, so two actions are enough for any stream. No call leaves
a transition pending, wherever in it an action failed; dispatching between calls is therefore nothing at all.
-/

set_option autoImplicit false

namespace FramedHttp

variable {ε : Type} [Engine ε]

namespace Stream

/-- The loop of a dispatch without a bound, with the number of its actions and what it comes to. -/
inductive Acts : Stream ε → Nat → Outcome StreamError (Stream ε) → Prop
  | settled {s : Stream ε} (h : s.pending = false) : Acts s 0 (.ok (), s)
  | failed {s t : Stream ε} {e : StreamError} (h : s.pending = true)
      (ha : { s with pending := false }.act = (.error e, t)) : Acts s 1 (.error e, t)
  | again {s t : Stream ε} {n : Nat} {r : Outcome StreamError (Stream ε)} (h : s.pending = true)
      (ha : { s with pending := false }.act = (.ok (), t)) (hn : Acts t n r) : Acts s (n + 1) r

variable {s t : Stream ε} {n m k : Nat} {r q : Outcome StreamError (Stream ε)}

theorem Acts.deterministic (h : Acts s n r) (h' : Acts s m q) : m = n ∧ q = r := by
  induction h generalizing m q with
  | settled hs =>
    cases h' with
    | settled => exact ⟨rfl, rfl⟩
    | failed hp | again hp => cases hs.symm.trans hp
  | failed hs ha =>
    cases h' with
    | settled hp => cases hs.symm.trans hp
    | failed _ ha' =>
      cases ha.symm.trans ha'
      exact ⟨rfl, rfl⟩
    | again _ ha' => cases ha.symm.trans ha'
  | again hs ha _ ih =>
    cases h' with
    | settled hp => cases hs.symm.trans hp
    | failed _ ha' => cases ha.symm.trans ha'
    | again _ ha' hn =>
      cases ha.symm.trans ha'
      obtain ⟨rfl, rfl⟩ := ih hn
      exact ⟨rfl, rfl⟩

/-- A bound that leaves room for every action changes nothing. -/
theorem Acts.dispatchUpTo_eq (h : Acts s n r) (hk : n ≤ k) : dispatchUpTo k s = r := by
  induction h generalizing k with
  | settled hs => exact dispatchUpTo_settled k _ hs
  | failed hs ha =>
    obtain ⟨k, rfl⟩ := Nat.exists_eq_add_of_le' hk
    rw [dispatchUpTo, if_pos hs, ha, Outcome.andThen_error]
  | again hs ha _ ih =>
    obtain ⟨k, rfl⟩ := Nat.exists_eq_add_of_le' (Nat.le_trans (Nat.le_add_left 1 _) hk)
    rw [dispatchUpTo, if_pos hs, ha, Outcome.andThen_ok]
    exact ih (Nat.le_of_succ_le_succ hk)

/-- After the request line the fields beside it are left to be forwarded. -/
theorem startRequest_state (h : s.startRequest.1 = .ok ()) : s.startRequest.2.state = .headerFields := by
  revert h
  unfold startRequest
  split
  · exact nofun
  · split
    · exact nofun
    · apply Outcome.andThen_cases (P := fun r : Outcome StreamError (Stream ε) =>
        r.1 = .ok () → r.2.state = .headerFields)
      · exact fun _ _ => nofun
      · exact fun _ _ => rfl

/-- Where an action leaves another one to be done, that one is to forward the fields. -/
theorem act_ok (hs : s.pending = false) (ha : s.act = (.ok (), t)) :
    t.pending = false ∨ t.state = .headerFields := by
  by_cases hr : s.state = .requestLine
  · have hstart : s.startRequest = (.ok (), t) := by rwa [act, hr] at ha
    have ht := startRequest_state (congrArg Prod.fst hstart)
    rw [hstart] at ht
    exact .inr ht
  · have hp := act_pending s hr
    rw [ha, hs] at hp
    exact .inl hp

/-- Apart from the request line one action is enough. -/
theorem acts_one (h : s.pending = false ∨ s.state = .headerFields) : ∃ n ≤ 1, ∃ r, Acts s n r := by
  cases hp : s.pending with
  | false => exact ⟨0, Nat.zero_le 1, _, .settled hp⟩
  | true =>
    have hf : s.state = .headerFields := h.resolve_left (by simp [hp])
    have hne : { s with pending := false }.state ≠ .requestLine := by simp [hf]
    rcases ha : { s with pending := false }.act with ⟨e | _, t⟩
    · exact ⟨1, Nat.le_refl 1, _, .failed hp ha⟩
    · have ht : t.pending = false := by
        have hkept := act_pending _ hne
        rwa [ha] at hkept
      exact ⟨1, Nat.le_refl 1, _, .again hp ha (.settled ht)⟩

/-- Whatever state a stream is in, its dispatch is the loop without a bound and ends after two actions at most. -/
theorem dispatch_acts (s : Stream ε) : ∃ n ≤ 2, Acts s n s.dispatch := by
  have hloop : ∃ n ≤ 2, ∃ r, Acts s n r := by
    cases hp : s.pending with
    | false => exact ⟨0, Nat.zero_le 2, _, .settled hp⟩
    | true =>
      rcases ha : { s with pending := false }.act with ⟨e | _, t⟩
      · exact ⟨1, Nat.le_succ 1, _, .failed hp ha⟩
      · obtain ⟨n, hn, r, hr⟩ := acts_one (act_ok rfl ha)
        exact ⟨n + 1, Nat.succ_le_succ hn, r, .again hp ha hr⟩
  obtain ⟨n, hn, r, hr⟩ := hloop
  have hd : s.dispatch = r := hr.dispatchUpTo_eq (Nat.le_trans hn (by decide))
  exact ⟨n, hn, hd ▸ hr⟩

end Stream

open FramedHttp.Stream

namespace Session

/-- The happening is a dispatch from outside. -/
def Happening.dispatches : Happening → Bool
  | .use .dispatch => true
  | _ => false

theorem Happening.dispatches_use {op : SessionOp} :
    (Happening.use op).dispatches = decide (op = .dispatch) := by
  cases op <;> simp [dispatches]

def undispatched (happenings : List Happening) : List Happening :=
  happenings.filter fun happening => !happening.dispatches

/-- The uses among what happens, each with its result. -/
def outcomes : List Happening → Session ε → List (SessionOp × SessionResult)
  | [], _ => []
  | .use op :: rest, s => (op, (s.perform op).1) :: outcomes rest (s.perform op).2
  | .relink link :: rest, s => outcomes rest (s.withLink link)

variable {s : Session ε}

theorem perform_dispatch (hs : s.stream.pending = false) : s.perform .dispatch = (.done, s) := by
  have hd : s.stream.dispatch = (.ok (), s.stream) := dispatch_settled s.stream hs
  change told (s.stream.dispatch.mapState fun stream => s.withStream stream) = _
  rw [hd]
  rfl

/-- Leaving out every dispatch changes neither the session nor the result of any other use. -/
theorem undispatched_same (hs : s.stream.pending = false) (happenings : List Happening) :
    undergo (undispatched happenings) s = undergo happenings s ∧
    outcomes (undispatched happenings) s = (outcomes happenings s).filter (fun use => use.1 ≠ .dispatch) ∧
    ∀ use ∈ outcomes happenings s, use.1 = .dispatch → use.2 = .done := by
  induction happenings generalizing s with
  | nil => exact ⟨rfl, rfl, fun _ huse => absurd huse List.not_mem_nil⟩
  | cons happening rest ih =>
    obtain ⟨hu, hr, hdone⟩ := ih (undergo_keeps settled_kept (fun _ => id) [happening] hs)
    cases happening with
    | relink link =>
      simp only [undergo] at hu hr hdone
      have hkeep : undispatched (.relink link :: rest) = .relink link :: undispatched rest := rfl
      simp only [hkeep, undergo, outcomes]
      exact ⟨hu, hr, hdone⟩
    | use op =>
      by_cases hop : op = .dispatch
      · subst hop
        have hskip : undispatched (.use .dispatch :: rest) = undispatched rest := rfl
        simp only [undergo, perform_dispatch hs] at hu hr hdone
        simp only [hskip, undergo, outcomes, perform_dispatch hs]
        exact ⟨hu, by simpa using hr, by simpa using hdone⟩
      · have hkeep : undispatched (.use op :: rest) = .use op :: undispatched rest :=
          List.filter_cons_of_pos (by simp [Happening.dispatches_use, hop])
        simp only [undergo] at hu hr hdone
        simp only [hkeep, undergo, outcomes]
        constructor
        · exact hu
        constructor
        · rw [List.filter_cons_of_pos (by simpa using hop)]
          exact congrArg _ hr
        · intro use huse hd
          rcases List.mem_cons.mp huse with rfl | huse
          · exact absurd hd hop
          · exact hdone use huse hd

/-- A reader that waits notices nothing of a dispatch. -/
theorem attend_undispatched (x : Transport ε) (arrivals : List (List Happening)) (hs : s.stream.pending = false) :
    x.waiting.attend ((arrivals.map undispatched).map undergo) s = x.waiting.attend (arrivals.map undergo) s := by
  induction arrivals generalizing s with
  | nil => rfl
  | cons happenings rest ih =>
    have hu := ih (undergo_keeps settled_kept (fun _ => id) happenings hs)
    simp only [List.map_cons, Waiting.attend, (undispatched_same hs happenings).1, hu]

theorem block_undispatched (x : Transport ε) (arrivals : List (List Happening)) (maxIdle : Duration)
    (hs : s.stream.pending = false) :
    x.waiting.block ((arrivals.map undispatched).map undergo) maxIdle s =
      x.waiting.block (arrivals.map undergo) maxIdle s := by
  have hpulled : (x.waiting.pull s).2.stream.pending = false :=
    undergo_keeps settled_kept (fun _ => id) (x.pull s).2 hs
  unfold Waiting.block
  cases x.waiting.look s with
  | waiting =>
    rcases hp : x.waiting.pull s with ⟨e | _, t⟩
    · rfl
    · rw [hp] at hpulled
      simp only [attend_undispatched x arrivals hpulled]
  | _ => rfl

/-- Between calls a dispatch succeeds and does nothing, whatever happened before and whatever failed. Dispatches
can be left out anywhere, of what happens to a session and of what arrives during a wait, and all that happens is
as it was. In every state of a stream, also within its calls, a dispatch ends after two actions at most. -/
theorem dispatch_nothing (settings : Settings) (link : Link) (engine : ε) (inbox : List InFrame) (pressure : Bool)
    (before : List Happening) :
    let start : Session ε := { stream := .new settings link engine, inbox := inbox, pressure := pressure }
    let s := undergo before start
    s.stream.dispatch = (.ok (), s.stream) ∧ s.perform .dispatch = (.done, s) ∧
    (∀ happenings, undergo (undispatched happenings) s = undergo happenings s ∧
      outcomes (undispatched happenings) s = (outcomes happenings s).filter (fun use => use.1 ≠ .dispatch) ∧
      ∀ use ∈ outcomes happenings s, use.1 = .dispatch → use.2 = .done) ∧
    (∀ (x : Transport ε) (arrivals : List (List Happening)) (maxIdle : Duration),
      x.waiting.block ((arrivals.map undispatched).map undergo) maxIdle s =
        x.waiting.block (arrivals.map undergo) maxIdle s) ∧
    ∀ t : Stream ε, ∃ n ≤ 2, ∀ m r, Acts t m r ↔ m = n ∧ r = t.dispatch := by
  intro start s
  have hs : s.stream.pending = false := undergo_keeps settled_kept (fun _ => id) before rfl
  constructor
  · exact dispatch_settled s.stream hs
  constructor
  · exact perform_dispatch hs
  constructor
  · exact undispatched_same hs
  constructor
  · exact fun x arrivals maxIdle => block_undispatched x arrivals maxIdle hs
  · intro t
    obtain ⟨n, hn, ht⟩ := dispatch_acts t
    refine ⟨n, hn, fun m r => ⟨ht.deterministic, ?_⟩⟩
    rintro ⟨rfl, rfl⟩
    exact ht

end Session

end FramedHttp
