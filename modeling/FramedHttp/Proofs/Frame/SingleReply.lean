import FramedHttp.Proofs.Frame.Conversation

/-!
# One reply over a link that may fail

Whichever sends fail, and however an application goes on after a failure, one reply at most is attempted,
and the frames that get through form a conversation. What the sink believes about them stays true.
-/

set_option autoImplicit false

namespace FramedHttp

section Conversation

variable {frames before after : List OutFrame}

theorem conversation_data (h : Conversation frames) {octets : Octets} {close : Bool}
    (hf : frames = before ++ .data octets close :: after) : ∃ headers, .reply headers false ∈ before := by
  cases before with
  | nil => cases h <;> cases hf
  | cons f before =>
    cases h with
    | silent => cases hf
    | bare headers => simp at hf
    | «open» headers pieces => exact ⟨headers, by simp [(List.cons.inj hf).1]⟩
    | ended headers pieces hp last => exact ⟨headers, by simp [(List.cons.inj hf).1]⟩

theorem conversation_unclosed (h : Conversation frames) : ∀ f ∈ frames.dropLast, f.closes = false := by
  have hpieces : ∀ pieces, ∀ f ∈ pieceFrames pieces, f.closes = false := by
    intro pieces f hf
    obtain ⟨_, _, rfl⟩ := List.mem_map.mp hf
    rfl
  intro f hf
  cases h with
  | silent => cases hf
  | bare => cases hf
  | «open» headers pieces =>
    rcases List.mem_cons.mp ((List.dropLast_sublist _).subset hf) with rfl | hf
    · rfl
    · exact hpieces pieces f hf
  | ended headers pieces hp last =>
    rw [List.dropLast_concat] at hf
    rcases List.mem_cons.mp hf with rfl | hf
    · rfl
    · exact hpieces pieces f hf

/-- Nothing follows the close mark. -/
theorem conversation_closed (h : Conversation frames) {f : OutFrame} (hf : frames = before ++ f :: after)
    (hc : f.closes = true) : after = [] := by
  cases after with
  | nil => rfl
  | cons g after =>
    have hm : f ∈ frames.dropLast := by
      rw [hf, List.dropLast_append_of_ne_nil (by simp), List.dropLast_cons_cons]
      simp
    rw [conversation_unclosed h f hm] at hc
    cases hc

end Conversation

/-- What the flags of a sink say about the frames on its link. -/
structure Heard (r : ReplyState) (l : Link) : Prop where
  conversation : Conversation l.sent
  silent : r.replied = false → l.sent = []
  unclosed : r.replied = true → r.closed = false →
    ∃ headers pieces, (∀ p ∈ pieces, p ≠ []) ∧ l.sent = .reply headers false :: pieceFrames pieces
  /-- Data is not even attempted before an open reply is on the link. -/
  data : 0 < l.dataFrames → ∃ headers, .reply headers false ∈ l.sent

theorem heard_silent {r : ReplyState} {l : Link} (hr : r.replied = false) (hs : l.sent = [])
    (hd : l.dataFrames = 0) : Heard r l where
  conversation := hs ▸ .silent
  silent _ := hs
  unclosed h := absurd (hr.symm.trans h) (by decide)
  data h := absurd hd (Nat.ne_of_gt h)

theorem heard_bare {r : ReplyState} {l : Link} (hr : r.replied = true) (hc : r.closed = true)
    {headers : Headers} (hs : l.sent = [.reply headers true]) (hd : l.dataFrames = 0) : Heard r l where
  conversation := hs ▸ .bare headers
  silent h := absurd (hr.symm.trans h) (by decide)
  unclosed _ h := absurd (hc.symm.trans h) (by decide)
  data h := absurd hd (Nat.ne_of_gt h)

theorem heard_open {r : ReplyState} {l : Link} (hr : r.replied = true) {headers : Headers}
    {pieces : List Octets} (hp : ∀ p ∈ pieces, p ≠ [])
    (hs : l.sent = .reply headers false :: pieceFrames pieces) : Heard r l where
  conversation := hs ▸ .open headers pieces hp
  silent h := absurd (hr.symm.trans h) (by decide)
  unclosed _ _ := ⟨headers, pieces, hp, hs⟩
  data _ := ⟨headers, by simp [hs]⟩

theorem heard_ended {r : ReplyState} {l : Link} (hr : r.replied = true) (hc : r.closed = true)
    {headers : Headers} {pieces : List Octets} (hp : ∀ p ∈ pieces, p ≠ []) {last : Octets}
    (hs : l.sent = .reply headers false :: pieceFrames pieces ++ [.data last true]) : Heard r l where
  conversation := hs ▸ .ended headers pieces hp last
  silent h := absurd (hr.symm.trans h) (by decide)
  unclosed _ h := absurd (hc.symm.trans h) (by decide)
  data _ := ⟨headers, by simp [hs]⟩

/-- Only the frames and the attempts at data matter. -/
theorem Heard.relink {r : ReplyState} {l k : Link} (h : Heard r l) (hs : k.sent = l.sent)
    (hd : k.dataFrames = l.dataFrames) : Heard r k where
  conversation := hs ▸ h.conversation
  silent hr := hs ▸ h.silent hr
  unclosed hr hc := hs ▸ h.unclosed hr hc
  data hn := hs ▸ h.data (hd ▸ hn)

namespace ReplyState

variable {r : ReplyState} {l : Link}

theorem data_heard (h : Heard r l) (hr : r.replied = true) (hc : r.closed = false) {octets : Octets}
    {close : Bool} (ho : close = false → octets ≠ []) :
    Heard (data octets close (r, l)).2.1 (data octets close (r, l)).2.2 := by
  obtain ⟨headers, pieces, hp, hs⟩ := h.unclosed hr hc
  cases hres : l.outcome .data l.dataFrames with
  | error e =>
    simp only [data, Link.sendData, Link.deliver, hres]
    exact heard_open hr hp hs
  | ok =>
    simp only [data, Link.sendData, Link.deliver, hres]
    cases close with
    | false =>
      have hsent : l.sent ++ [.data octets false] = .reply headers false :: pieceFrames (pieces ++ [octets]) := by
        rw [hs, ← pieceFrames_append, List.cons_append]
      exact heard_open hr (forall_mem_snoc hp (ho rfl)) hsent
    | true =>
      have hsent : l.sent ++ [.data octets true] = .reply headers false :: pieceFrames pieces ++ [.data octets true] := by
        rw [hs]
      exact heard_ended hr rfl hp hsent

theorem emit_heard {x : ReplyState × Link} (h : Heard x.1 x.2) (e : Emission) :
    Heard (emit e x).2.1 (emit e x).2.2 := by
  have hquiet : x.1.replied = false → x.2.sent = [] ∧ x.2.dataFrames = 0 := by
    intro hr
    have hs : x.2.sent = [] := h.silent hr
    apply And.intro hs
    apply Nat.eq_zero_of_not_pos
    intro hd
    obtain ⟨_, hm⟩ := h.data hd
    simp [hs] at hm
  have hs := emit_sending e x
  generalize emit e x = r at hs
  cases hs with
  | nothing => exact h
  | data _ _ hr hc ho => exact data_heard h hr hc ho
  | lost hr => exact heard_silent hr (hquiet hr).1 (hquiet hr).2
  | @bare head _ hr =>
    have hsent : x.2.sent ++ [.reply (replyHeaders head x.1.version) true] =
        [.reply (replyHeaders head x.1.version) true] := by
      rw [(hquiet hr).1]
      rfl
    exact heard_bare rfl rfl hsent (hquiet hr).2
  | @opened head _ _ hr _ hb =>
    have hsent : x.2.sent ++ [.reply (replyHeaders head x.1.version) false] =
        .reply (replyHeaders head x.1.version) false :: pieceFrames [] := by
      rw [(hquiet hr).1]
      rfl
    exact data_heard (heard_open rfl (by simp) hsent) rfl rfl fun _ => hb

theorem data_replies (x : ReplyState × Link) (octets : Octets) (close : Bool) :
    (data octets close x).2.2.replies = x.2.replies := by
  cases hres : x.2.outcome .data x.2.dataFrames <;> simp [data, Link.sendData, Link.deliver, hres]

/-- Only the headers of a response make the sink attempt a reply. -/
theorem emit_replies (x : ReplyState × Link) {e : Emission} (he : e.kind? ≠ some .headers) :
    (emit e x).2.2.replies = x.2.replies := by
  have hs := emit_sending e x
  generalize emit e x = r at hs
  cases hs with
  | nothing => rfl
  | data => exact data_replies _ _ _
  | lost | bare | opened => exact absurd rfl he

theorem headers_replies (x : ReplyState × Link) (head : ResponseHead) (buffered : Octets) (last : Bool) :
    (headers head buffered last x).2.2.replies ≤ x.2.replies + 1 := by
  have hs := headers_sending head buffered last x
  generalize headers head buffered last x = r at hs
  cases hs with
  | nothing => exact Nat.le_succ _
  | data _ hk => exact absurd rfl hk
  | lost | bare => exact Nat.le_refl _
  | opened => exact Nat.le_of_eq (data_replies _ _ _)

end ReplyState

/-- A response in this phase has attempted one reply at most, and none before its commit. -/
structure Spoken (phase : Phase) (r : ReplyState) (l : Link) : Prop where
  heard : Heard r l
  once : l.replies ≤ 1
  uncommitted : phase = .opened → l.replies = 0

theorem Spoken.relink {phase : Phase} {r : ReplyState} {l k : Link} (h : Spoken phase r l)
    (hs : k.sent = l.sent) (hd : k.dataFrames = l.dataFrames) (hr : k.replies = l.replies) :
    Spoken phase r k where
  heard := h.heard.relink hs hd
  once := hr ▸ h.once
  uncommitted hp := hr.trans (h.uncommitted hp)

theorem spoken_new {r : ReplyState} {l : Link} (hr : r.replied = false) (hs : l.sent = [])
    (hd : l.dataFrames = 0) (hn : l.replies = 0) : Spoken .opened r l where
  heard := heard_silent hr hs hd
  once := hn ▸ Nat.zero_le 1
  uncommitted _ := hn

namespace Generator

theorem spoken_emit {g : Generator (ReplyState × Link)} (h : Spoken g.phase g.sink.1 g.sink.2)
    {e : Emission} (he : e.kind? ≠ some .headers) :
    Spoken (g.emit e).2.phase (g.emit e).2.sink.1 (g.emit e).2.sink.2 where
  heard := ReplyState.emit_heard h.heard e
  once := Nat.le_trans (Nat.le_of_eq (ReplyState.emit_replies g.sink he)) h.once
  uncommitted hp := (ReplyState.emit_replies g.sink he).trans (h.uncommitted hp)

theorem spoken_commit {g : Generator (ReplyState × Link)} (h : Spoken g.phase g.sink.1 g.sink.2)
    (hp : g.phase = .opened) (last : Bool) :
    Spoken (g.commit last).2.phase (g.commit last).2.sink.1 (g.commit last).2.sink.2 where
  heard := ReplyState.emit_heard h.heard _
  once := by
    have hr := ReplyState.headers_replies g.sink g.head g.buffer last
    rw [h.uncommitted hp] at hr
    exact hr
  uncommitted hc := nomatch hc

/-- Whatever an application does to its response and whichever sends fail. -/
theorem spoken_persists :
    Persists fun g : Generator (ReplyState × Link) => Spoken g.phase g.sink.1 g.sink.2 where
  change h _ _ := h
  reset h _ := h
  gather h _ _ := h
  commit h hp last := spoken_commit h hp last
  emitBuffer {g} h _ last := spoken_emit (g := { g with buffer := [] }) h nofun
  close {g} h _ :=
    have hc : Spoken .completed g.sink.1 g.sink.2 := ⟨h.heard, h.once, nofun⟩
    spoken_emit (g := { g with phase := .completed }) hc nofun
  aside h e he := spoken_emit h (by rw [he]; nofun)

end Generator

end FramedHttp
