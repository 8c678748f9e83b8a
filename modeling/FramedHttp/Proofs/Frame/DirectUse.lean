import FramedHttp.Proofs.Frame.Completion
import FramedHttp.Proofs.Frame.ReplyFields

/-!
# A sink used directly

Nothing keeps a caller to the order in which a response uses its sink, and a caller may go on after an error.
The two flags of a sink are enough to keep its frames in order all the same, since they always describe the
frames that were sent, also where the headers fail between their reply and their first data.
-/

set_option autoImplicit false

namespace FramedHttp.ReplyState

/-- The emissions one after the other, whatever each of them answers. -/
def emitAll : List Emission → ReplyState × Link → ReplyState × Link
  | [], x => x
  | e :: rest, x => emitAll rest (emit e x).2

/-- The flags describe the frames on the link. -/
structure Describes (x : ReplyState × Link) : Prop where
  heard : Heard x.1 x.2
  marked : x.1.closed = lastCloses x.2.sent

variable {x : ReplyState × Link}

theorem Describes.emit (h : Describes x) (e : Emission) : Describes (emit e x).2 :=
  ⟨emit_heard h.heard e, emit_marked h.marked e⟩

theorem Describes.emitAll (h : Describes x) (emissions : List Emission) : Describes (emitAll emissions x) := by
  induction emissions generalizing x with
  | nil => exact h
  | cons e rest ih => exact ih (h.emit e)

theorem emitAll_version (emissions : List Emission) (x : ReplyState × Link) :
    (emitAll emissions x).1.version = x.1.version := by
  induction emissions generalizing x with
  | nil => rfl
  | cons e rest ih => exact (ih _).trans (emit_version e x)

/-- A reply on the link was there before, or one of the emissions made it, when none had got through yet. -/
theorem emitAll_reply {headers : Headers} {close : Bool} {emissions : List Emission}
    (h : .reply headers close ∈ (emitAll emissions x).2.sent) :
    .reply headers close ∈ x.2.sent ∨
      ∃ before head buffered last after, emissions = before ++ .headers head buffered last :: after ∧
        (emitAll before x).1.replied = false ∧ headers = replyHeaders head x.1.version ∧
        close = buffered.isEmpty := by
  induction emissions generalizing x with
  | nil => exact .inl h
  | cons e rest ih =>
    rcases ih h with h | ⟨before, head, buffered, last, after, rfl, hr, hh, hc⟩
    · rcases emit_reply h with h | ⟨head, buffered, last, rfl, hr, hh, hc⟩
      · exact .inl h
      · exact .inr ⟨[], head, buffered, last, rest, rfl, hr, hh, hc⟩
    · rw [emit_version] at hh
      exact .inr ⟨e :: before, head, buffered, last, after, rfl, hr, hh, hc⟩

theorem data_error {octets : Octets} {close : Bool} {error : EngineError}
    (h : (data octets close x).1 = .error error) :
    (data octets close x).2.1 = x.1 ∧ (data octets close x).2.2.sent = x.2.sent := by
  cases hr : x.2.outcome .data x.2.dataFrames with
  | error e => simp [data, Link.sendData, Link.deliver, hr]
  | ok => simp [data, Link.sendData, hr] at h

/-- A call that fails has sent nothing and left the flags alone, unless it is the headers whose reply got through
without its data. -/
theorem Sending.error {e : Emission} {r : Outcome EngineError (ReplyState × Link)} {error : EngineError}
    (h : Sending x e r) (he : r.1 = .error error) :
    (r.2.1 = x.1 ∧ r.2.2.sent = x.2.sent) ∨
    ∃ head buffered last, e = .headers head buffered last ∧ x.1.replied = false ∧ buffered ≠ [] ∧
      r.2.1 = { x.1 with replied := true, closed := false } ∧
      r.2.2.sent = x.2.sent ++ [.reply (replyHeaders head x.1.version) false] := by
  cases h with
  | nothing => exact .inl ⟨rfl, rfl⟩
  | data => exact .inl (data_error he)
  | lost => exact .inl ⟨rfl, rfl⟩
  | bare => cases he
  | @opened head buffered last hr _ hb =>
    obtain ⟨hflags, hsent⟩ := data_error he
    exact .inr ⟨head, buffered, last, rfl, hr, hb, hflags, hsent⟩

/-- Where there is no open reply, the end is nothing to send. -/
theorem finish_settled (h : x.1.replied = false ∨ x.1.closed = true) : finish x = (.ok (), x) := by
  rcases h with h | h <;> simp [finish, h]

/-- After an end that succeeded there is no reply or a closed one. -/
theorem Describes.finish (h : Describes x) (hok : (finish x).1 = .ok ()) :
    (finish x).2.1.replied = false ∧ (finish x).2.2.sent = [] ∨
      (finish x).2.1.closed = true ∧ lastCloses (finish x).2.2.sent = true := by
  have ht : Describes (ReplyState.finish x).2 := h.emit .finish
  cases hr : (ReplyState.finish x).2.1.replied with
  | false => exact .inl ⟨rfl, ht.heard.silent hr⟩
  | true =>
    have hc : (ReplyState.finish x).2.1.closed = true := finish_closes hok hr
    exact .inr ⟨hc, ht.marked.symm.trans hc⟩

/-- Whatever is asked of a sink in whatever order, and whichever sends fail, the frames sent form a conversation
that the flags describe, and its reply was made by the first headers that got through. A call that fails leaves
flags and frames as they were, unless the reply of its headers got through without the data. After an end that
succeeded the stream is unanswered or closed, and another end sends nothing. -/
theorem flags_describe_frames (version : Version) (stream : Nat) (faults : List (Fault LinkCall StreamError))
    (emissions : List Emission) :
    let start : ReplyState × Link := ({ version := version }, { stream := stream, faults := faults })
    let x := emitAll emissions start
    Conversation x.2.sent ∧ x.1.closed = lastCloses x.2.sent ∧ (x.1.replied = true ↔ x.2.sent ≠ []) ∧
    (∀ headers close, .reply headers close ∈ x.2.sent →
      ∃ before head buffered last after, emissions = before ++ .headers head buffered last :: after ∧
        (emitAll before start).2.sent = [] ∧ headers = replyHeaders head version ∧
        (close = true ↔ buffered = [])) ∧
    (∀ e error, (emit e x).1 = .error error →
      let t := (emit e x).2
      t.1.closed = lastCloses t.2.sent ∧ (t.1.replied = true ↔ t.2.sent ≠ []) ∧
      (t.1 = x.1 ∧ t.2.sent = x.2.sent ∨
        ∃ head buffered last, e = .headers head buffered last ∧ x.2.sent = [] ∧ buffered ≠ [] ∧
          t.2.sent = [.reply (replyHeaders head version) false] ∧ t.1.replied = true ∧ t.1.closed = false)) ∧
    ((finish x).1 = .ok () →
      let t := (finish x).2
      (t.1.replied = false ∧ t.2.sent = [] ∨ t.1.closed = true ∧ lastCloses t.2.sent = true) ∧
      finish t = (.ok (), t)) := by
  intro start x
  have hstart : Describes start := ⟨heard_silent rfl rfl rfl, rfl⟩
  have hx : Describes x := hstart.emitAll emissions
  have hv : x.1.version = version := emitAll_version emissions start
  constructor
  · exact hx.heard.conversation
  constructor
  · exact hx.marked
  constructor
  · exact replied_iff hx.heard hx.marked
  constructor
  · intro headers close hm
    rcases emitAll_reply hm with hm | ⟨before, head, buffered, last, after, he, hr, hh, hc⟩
    · cases hm
    · have hsent : (emitAll before start).2.sent = [] := (hstart.emitAll before).heard.silent hr
      exact ⟨before, head, buffered, last, after, he, hsent, hh, by rw [hc, List.isEmpty_iff]⟩
  constructor
  · intro e error he t
    have ht : Describes t := hx.emit e
    constructor
    · exact ht.marked
    constructor
    · exact replied_iff ht.heard ht.marked
    · rcases (emit_sending e x).error he with hsame | ⟨head, buffered, last, rfl, hr, hb, hflags, hsent⟩
      · exact .inl hsame
      · have hnone : x.2.sent = [] := hx.heard.silent hr
        rw [hnone, hv] at hsent
        exact .inr ⟨head, buffered, last, rfl, hnone, hb, hsent, congrArg _ hflags, congrArg _ hflags⟩
  · intro hok t
    have hend := hx.finish hok
    exact ⟨hend, finish_settled (hend.imp And.left And.left)⟩

-- The first data of the headers is lost. The reply stays open, takes more data and is closed by the end.
example :
    let start : ReplyState × Link := ({ version := .http11 }, { faults := [⟨.data, 0, .transport "lost"⟩] })
    let x := emitAll [.body [1] true, .headers {} [2] true, .headers {} [3] true, .body [] false, .body [4] false,
      .finish, .body [5] true] start
    x.2.sent = [.reply (replyHeaders {} .http11) false, .data [4] false, .data [] true] ∧ x.1.closed = true := by
  decide +kernel

end FramedHttp.ReplyState
