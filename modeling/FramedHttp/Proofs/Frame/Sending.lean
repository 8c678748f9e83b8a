import FramedHttp.Frame.Reply
import FramedHttp.Proofs.Response.Moves

/-!
# What an emission sends

An emission comes to one of few things, whichever sends fail: no call of the link at all, one attempt at data
on an open reply, or, with the first headers, one attempt at the reply, which data follows if it opened the
stream. Which of them it is and under which condition is said here once.
-/

set_option autoImplicit false

namespace FramedHttp.ReplyState

/-- How an emission to a sink can go, with the answer and the sink afterwards. -/
inductive Sending (x : ReplyState × Link) : Emission → Outcome EngineError (ReplyState × Link) → Prop
  | nothing {e : Emission} {answer : Except EngineError Unit} (h : answer = .ok () → e.octets = [])
      (hk : e.kind? = some .headers → x.1.replied = true) : Sending x e (answer, x)
  | data {e : Emission} {octets : Octets} {close : Bool} (he : e.octets = octets) (hk : e.kind? ≠ some .headers)
      (hr : x.1.replied = true) (hc : x.1.closed = false) (ho : close = false → octets ≠ []) :
      Sending x e (data octets close x)
  | lost {head : ResponseHead} {buffered : Octets} {last : Bool} {error : StreamError}
      (hr : x.1.replied = false) (h : x.2.outcome .reply x.2.replies = .error error) :
      Sending x (.headers head buffered last) (.error error.toEngine, x.1, { x.2 with replies := x.2.replies + 1 })
  | bare {head : ResponseHead} {last : Bool} (hr : x.1.replied = false)
      (h : x.2.outcome .reply x.2.replies = .ok ()) :
      Sending x (.headers head [] last)
        (.ok (), { x.1 with replied := true, closed := true },
          { x.2 with
            sent := x.2.sent ++ [.reply (replyHeaders head x.1.version) true]
            replies := x.2.replies + 1 })
  | opened {head : ResponseHead} {buffered : Octets} {last : Bool} (hr : x.1.replied = false)
      (h : x.2.outcome .reply x.2.replies = .ok ()) (hb : buffered ≠ []) :
      Sending x (.headers head buffered last)
        (data buffered last
          ({ x.1 with replied := true, closed := false },
            { x.2 with
              sent := x.2.sent ++ [.reply (replyHeaders head x.1.version) false]
              replies := x.2.replies + 1 }))

variable {x : ReplyState × Link}

theorem headers_sending (head : ResponseHead) (buffered : Octets) (last : Bool) (x : ReplyState × Link) :
    Sending x (.headers head buffered last) (headers head buffered last x) := by
  cases hr : x.1.replied with
  | true =>
    simp only [headers, hr, if_true]
    exact .nothing nofun fun _ => hr
  | false =>
    cases ho : x.2.outcome .reply x.2.replies with
    | error e =>
      simp only [headers, hr, Link.sendReply, Link.deliver, ho, Bool.false_eq_true, if_false]
      exact .lost hr ho
    | ok =>
      simp only [headers, hr, Link.sendReply, Link.deliver, ho, Bool.false_eq_true, if_false]
      cases buffered with
      | nil => exact .bare hr ho
      | cons o octets => exact .opened hr ho (List.cons_ne_nil o octets)

theorem emit_sending (e : Emission) (x : ReplyState × Link) : Sending x e (emit e x) := by
  cases e with
  | headers head buffered last => exact headers_sending head buffered last x
  | body chunk last =>
    simp only [emit, body]
    split
    · exact .nothing nofun nofun
    · next ho =>
      simp only [Bool.or_eq_true, Bool.not_eq_true', not_or, Bool.not_eq_false, Bool.not_eq_true] at ho
      split
      · next he => exact .nothing (fun _ => List.isEmpty_iff.mp (Bool.and_eq_true_iff.mp he).1) nofun
      · next he =>
        have hne : last = false → chunk ≠ [] := by
          rintro rfl rfl
          simp at he
        exact .data rfl nofun ho.1 ho.2 hne
  | finish =>
    simp only [emit, finish]
    split
    · next ho =>
      simp only [Bool.and_eq_true, Bool.not_eq_true'] at ho
      exact .data rfl nofun ho.1 ho.2 fun hc => nomatch hc
    · exact .nothing (fun _ => rfl) nofun
  | informational | raw => exact .nothing nofun nofun

end FramedHttp.ReplyState
