import FramedHttp.Proofs.Frame.Sending

/-!
# Links that take every frame

On a link without faults in sending, a frame that is sent is the last one on the link afterwards. A quiet
link also takes every pull, and nobody has asked its session to stop; a response never does.
-/

set_option autoImplicit false

namespace FramedHttp

namespace Link

/-- The link takes every frame. -/
def Sends (l : Link) : Prop :=
  ∀ f ∈ l.faults, f.on ≠ .reply ∧ f.on ≠ .data

theorem outcome_ok {l : Link} {call : LinkCall} (h : ∀ f ∈ l.faults, f.on ≠ call) (n : Nat) :
    l.outcome call n = .ok () := by
  have hf : l.faults.find? (fun f => f.on = call ∧ f.nth = n) = none := by
    apply List.find?_eq_none.mpr
    intro f hm
    simp [h f hm]
  unfold outcome faultAt
  rw [hf]
  rfl

theorem sendReply_ok {l : Link} (h : l.Sends) (headers : Headers) (close : Bool) :
    l.sendReply headers close =
      (.ok (), { l with replies := l.replies + 1, sent := l.sent ++ [.reply headers close] }) := by
  simp [sendReply, deliver, outcome_ok fun f hf => (h f hf).1]

theorem sendData_ok {l : Link} (h : l.Sends) (octets : Octets) (close : Bool) :
    l.sendData octets close =
      (.ok (), { l with dataFrames := l.dataFrames + 1, sent := l.sent ++ [.data octets close] }) := by
  simp [sendData, deliver, outcome_ok fun f hf => (h f hf).2]

/-- The link takes every frame and every pull, and nothing was terminated. -/
structure Quiet (l : Link) : Prop where
  faults : ∀ f ∈ l.faults, f.on = .terminate
  terminations : l.terminations = 0

namespace Quiet

variable {l : Link} (h : l.Quiet)
include h

theorem sends : l.Sends := by
  intro f hf
  rw [h.faults f hf]
  exact ⟨nofun, nofun⟩

theorem pull_ok : l.pull = (.ok (), { l with pulls := l.pulls + 1 }) := by
  have hp : l.outcome .pull l.pulls = .ok () := by
    apply outcome_ok
    intro f hf
    rw [h.faults f hf]
    exact nofun
  rw [pull, hp]

theorem deliver (frame : OutFrame) (result : Except StreamError Unit) :
    (Link.deliver frame result l).Quiet := by
  unfold Link.deliver
  split
  · exact ⟨h.faults, h.terminations⟩
  · exact h

theorem sendReply (headers : Headers) (close : Bool) : (l.sendReply headers close).2.Quiet :=
  deliver (l := { l with replies := l.replies + 1 }) ⟨h.faults, h.terminations⟩ _ _

theorem sendData (octets : Octets) (close : Bool) : (l.sendData octets close).2.Quiet :=
  deliver (l := { l with dataFrames := l.dataFrames + 1 }) ⟨h.faults, h.terminations⟩ _ _

end Quiet

end Link

namespace ReplyState

section Link

-- What sending a frame keeps of a link.
variable {P : Link → Prop} (hreply : ∀ {l : Link}, P l → ∀ headers close, P (l.sendReply headers close).2)
  (hdata : ∀ {l : Link}, P l → ∀ octets close, P (l.sendData octets close).2)
  {x : ReplyState × Link} (h : P x.2)
include hdata h

theorem data_keeps (octets : Octets) (close : Bool) : P (data octets close x).2.2 := by
  have hd := hdata h octets close
  unfold data
  dsimp only
  split <;> next hr => rwa [hr] at hd

include hreply

/-- What every send keeps of a link, every emission keeps. -/
theorem emit_keeps (e : Emission) : P (emit e x).2.2 := by
  have hs := emit_sending e x
  generalize emit e x = r at hs
  cases hs with
  | nothing => exact h
  | data => exact data_keeps hdata h _ _
  | @lost head buffered _ _ _ ho =>
    simpa [Link.sendReply, Link.deliver, ho] using hreply h (replyHeaders head x.1.version) buffered.isEmpty
  | @bare head _ _ ho =>
    simpa [Link.sendReply, Link.deliver, ho] using hreply h (replyHeaders head x.1.version) true
  | @opened head _ _ _ ho =>
    apply data_keeps hdata
    simpa [Link.sendReply, Link.deliver, ho] using hreply h (replyHeaders head x.1.version) false

end Link

theorem emit_quiet {x : ReplyState × Link} (h : x.2.Quiet) (e : Emission) : (emit e x).2.2.Quiet :=
  emit_keeps (fun h => h.sendReply) (fun h => h.sendData) h e

end ReplyState

/-- A response never asks the session to stop. -/
theorem Generator.quiet_persists : Persists fun g : Generator (ReplyState × Link) => g.sink.2.Quiet where
  change h _ _ := h
  reset h _ := h
  gather h _ _ := h
  commit h _ _ := ReplyState.emit_quiet h _
  emitBuffer h _ _ := ReplyState.emit_quiet h _
  close h _ := ReplyState.emit_quiet h _
  aside h e _ := ReplyState.emit_quiet h e

end FramedHttp
