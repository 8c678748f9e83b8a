import FramedHttp.Proofs.Frame.SingleReply
import FramedHttp.Proofs.Response.Following

/-!
# Losses on a link

A link has lost nothing while every send attempted on it got through. What was lost stays lost. As long as
nothing is, a response goes as over the link without its faults, and a call of a response that succeeds
does not lose anything.
-/

set_option autoImplicit false

namespace FramedHttp

/-- The call sends a frame. -/
def LinkCall.sends : LinkCall → Bool
  | .reply | .data => true
  | _ => false

namespace Link

/-- How many calls of a kind were made, the failed ones included. -/
def attempts (l : Link) : LinkCall → Nat
  | .reply => l.replies
  | .data => l.dataFrames
  | .pull => l.pulls
  | .terminate => l.terminations

/-- Every send attempted so far got through. -/
def Lossless (l : Link) : Prop :=
  ∀ call, call.sends = true → ∀ n < l.attempts call, l.outcome call n = .ok ()

/-- The link as it would be without its faults. -/
def faultless (l : Link) : Link :=
  { l with faults := [] }

/-- The link after one more call of a kind, whatever came of it. -/
structure Attempted (call : LinkCall) (l k : Link) : Prop where
  faults : k.faults = l.faults
  attempts : ∀ c, k.attempts c = l.attempts c + if c = call then 1 else 0

variable {l k : Link}

theorem outcome_congr (h : k.faults = l.faults) (call : LinkCall) (n : Nat) :
    k.outcome call n = l.outcome call n := by
  unfold outcome
  rw [h]

theorem deliver_faults (frame : OutFrame) (result : Except StreamError Unit) (l : Link) :
    (deliver frame result l).faults = l.faults := by
  cases result <;> rfl

theorem deliver_attempts (frame : OutFrame) (result : Except StreamError Unit) (l : Link) (call : LinkCall) :
    (deliver frame result l).attempts call = l.attempts call := by
  cases result <;> rfl

theorem sendReply_attempted (headers : Headers) (close : Bool) (l : Link) :
    Attempted .reply l (l.sendReply headers close).2 where
  faults := deliver_faults _ _ _
  attempts c := by
    rw [sendReply, deliver_attempts]
    cases c <;> rfl

theorem sendData_attempted (octets : Octets) (close : Bool) (l : Link) :
    Attempted .data l (l.sendData octets close).2 where
  faults := deliver_faults _ _ _
  attempts c := by
    rw [sendData, deliver_attempts]
    cases c <;> rfl

/-- Nothing is lost after a send if nothing was before it and it got through. -/
theorem attempted_lossless_iff {call : LinkCall} (h : Attempted call l k) (hc : call.sends = true) :
    k.Lossless ↔ l.Lossless ∧ l.outcome call (l.attempts call) = .ok () := by
  constructor
  · intro hk
    constructor
    · intro c hs n hn
      rw [← outcome_congr h.faults]
      have ha := h.attempts c
      exact hk c hs n (by omega)
    · rw [← outcome_congr h.faults]
      have ha := h.attempts call
      rw [if_pos rfl] at ha
      exact hk call hc _ (by omega)
  · rintro ⟨hl, hok⟩ c hs n hn
    rw [outcome_congr h.faults]
    rw [h.attempts] at hn
    by_cases he : c = call
    · subst he
      rw [if_pos rfl] at hn
      by_cases hlast : n = l.attempts c
      · rw [hlast]
        exact hok
      · exact hl c hs n (by omega)
    · rw [if_neg he] at hn
      exact hl c hs n hn

theorem sendReply_lossless_iff {headers : Headers} {close : Bool} :
    (l.sendReply headers close).2.Lossless ↔ l.Lossless ∧ (l.sendReply headers close).1 = .ok () :=
  attempted_lossless_iff (sendReply_attempted headers close l) rfl

theorem sendData_lossless_iff {octets : Octets} {close : Bool} :
    (l.sendData octets close).2.Lossless ↔ l.Lossless ∧ (l.sendData octets close).1 = .ok () :=
  attempted_lossless_iff (sendData_attempted octets close l) rfl

end Link

namespace ReplyState

open Link

variable {r : ReplyState} {l : Link} {x : ReplyState × Link}

/-- The sink over the link without its faults. -/
def overFaultless (x : ReplyState × Link) : ReplyState × Link :=
  (x.1, x.2.faultless)

theorem emit_faults (e : Emission) (x : ReplyState × Link) : (emit e x).2.2.faults = x.2.faults := by
  apply emit_keeps (P := fun k => k.faults = x.2.faults) _ _ rfl
  · intro k h headers close
    exact (sendReply_attempted headers close k).faults.trans h
  · intro k h octets close
    exact (sendData_attempted octets close k).faults.trans h

/-- What was lost stays lost. -/
theorem lossless_of_emit {e : Emission} (h : (emit e x).2.2.Lossless) : x.2.Lossless := by
  have hk : (emit e x).2.2.Lossless → x.2.Lossless := by
    apply emit_keeps (P := fun k => k.Lossless → x.2.Lossless) _ _ id
    · intro k h headers close hs
      exact h (sendReply_lossless_iff.mp hs).1
    · intro k h octets close hs
      exact h (sendData_lossless_iff.mp hs).1
  exact hk h

theorem data_lossless_iff {octets : Octets} {close : Bool} :
    (data octets close x).2.2.Lossless ↔ x.2.Lossless ∧ (data octets close x).1 = .ok () := by
  have hs : (x.2.sendData octets close).2.Lossless ↔ x.2.Lossless ∧ (x.2.sendData octets close).1 = .ok () :=
    sendData_lossless_iff
  rcases hr : x.2.sendData octets close with ⟨e | _, k⟩
  · rw [hr] at hs
    simpa [data, hr] using hs
  · rw [hr] at hs
    simpa [data, hr] using hs

/-- An emission that succeeds loses nothing. -/
theorem emit_lossless {e : Emission} (hok : (emit e x).1 = .ok ()) (h : x.2.Lossless) :
    (emit e x).2.2.Lossless := by
  have hreply : ∀ headers close, x.2.outcome .reply x.2.replies = .ok () → (x.2.sendReply headers close).2.Lossless :=
    fun headers close ho => sendReply_lossless_iff.mpr ⟨h, ho⟩
  have hs := emit_sending e x
  generalize emit e x = r at hs hok
  cases hs with
  | nothing => exact h
  | data => exact data_lossless_iff.mpr ⟨h, hok⟩
  | lost => cases hok
  | @bare head _ _ ho =>
    simpa [Link.sendReply, Link.deliver, ho] using hreply (replyHeaders head x.1.version) true ho
  | @opened head _ _ _ ho =>
    have hopen := hreply (replyHeaders head x.1.version) false ho
    simp only [Link.sendReply, Link.deliver, ho] at hopen
    exact data_lossless_iff.mpr ⟨hopen, hok⟩

theorem data_follows {octets : Octets} {close : Bool} (h : (data octets close x).2.2.Lossless) :
    (data octets close x).mapState overFaultless = data octets close (overFaultless x) := by
  have hok : x.2.outcome .data x.2.dataFrames = .ok () := by
    cases hr : x.2.outcome .data x.2.dataFrames with
    | ok => rfl
    | error e =>
      have he := (data_lossless_iff.mp h).2
      simp [data, Link.sendData, hr] at he
  have hf : x.2.faultless.outcome .data x.2.faultless.dataFrames = .ok () := rfl
  simp only [data, overFaultless, Link.sendData, Link.deliver, hok, hf]
  rfl

theorem headers_follows {head : ResponseHead} {buffered : Octets} {last : Bool}
    (h : (headers head buffered last x).2.2.Lossless) :
    (headers head buffered last x).mapState overFaultless = headers head buffered last (overFaultless x) := by
  by_cases hr : x.1.replied = true
  · simp [headers, overFaultless, hr, Outcome.mapState]
  · cases ho : x.2.outcome .reply x.2.replies with
    | error e =>
      have hs : (x.2.sendReply (replyHeaders head x.1.version) buffered.isEmpty).2.Lossless := by
        simpa [headers, hr, Link.sendReply, ho] using h
      have he := (sendReply_lossless_iff.mp hs).2
      simp [Link.sendReply, ho] at he
    | ok =>
      have hf : x.2.faultless.outcome .reply x.2.faultless.replies = .ok () := rfl
      simp only [headers, hr, Link.sendReply, Link.deliver, ho] at h
      simp only [headers, overFaultless, hr, Link.sendReply, Link.deliver, ho, hf]
      by_cases hb : buffered.isEmpty = true
      · simp only [hb, if_true]
        rfl
      · simp only [hb, Bool.false_eq_true, if_false] at h ⊢
        exact data_follows h

/-- An emission after which nothing is lost goes as over a link without faults. -/
theorem emit_follows {e : Emission} (h : (emit e x).2.2.Lossless) :
    (emit e x).mapState overFaultless = emit e (overFaultless x) := by
  cases e with
  | headers head buffered last => exact headers_follows h
  | body chunk last =>
    have hf : (overFaultless x).1 = x.1 := rfl
    simp only [emit, body, hf] at h ⊢
    split
    · rfl
    · next ho =>
      rw [if_neg ho] at h
      split
      · rfl
      · next hn =>
        rw [if_neg hn] at h
        exact data_follows h
  | finish =>
    have hf : (overFaultless x).1 = x.1 := rfl
    simp only [emit, finish, hf] at h ⊢
    split
    · next ho =>
      rw [if_pos ho] at h
      exact data_follows h
    · rfl
  | informational => rfl
  | raw => rfl

theorem faultless_follows : FollowsUntil (fun x : ReplyState × Link => ¬ x.2.Lossless) overFaultless where
  stays h _ hk := h (lossless_of_emit hk)
  emit h := emit_follows (Classical.not_not.mp h)

end ReplyState

/-- A response does not bring back what was lost. -/
theorem Generator.lossless_of_moves {x y : Generator (ReplyState × Link) × Octets} (hm : Generator.Moves x y)
    (h : y.1.sink.2.Lossless) : x.1.sink.2.Lossless := by
  apply Classical.not_not.mp
  intro hb
  exact Generator.moves_broken ReplyState.faultless_follows hm hb h

end FramedHttp
