import FramedHttp.Proofs.Frame.ReplyFields
import FramedHttp.Proofs.Response.Head

/-!
# Interim statuses in replies

An interim response that is sent as one is refused, and no frame goes out for it. A head is not looked at in this
way: whatever its status is, its commit sends a reply that tells it. So a reply tells an interim status just when
its head did at the commit, and that only if the application had set one.
-/

set_option autoImplicit false

namespace FramedHttp

/-- The status line in a reply begins with the code. -/
def statusCode (line : String) : Nat :=
  Nat.ofDigitChars 10 (line.toList.takeWhile Char.isDigit) 0

def tellsInterim (line : String) : Bool :=
  statusCode line / 100 == 1

/-- The frame is a reply with an informational status. -/
def OutFrame.isInterim : OutFrame → Bool
  | .reply headers _ => (headers.get? "status").any tellsInterim
  | .data _ _ => false

/-- What a reply tells as the status of a head. -/
def ResponseHead.toldStatus (head : ResponseHead) : String :=
  (head.headers.values "status").getLast?.getD head.statusLine

/-- The operation gives the head an informational status, or a field that tells one in a reply. -/
def ResponseOp.setsInterim : ResponseOp → Bool
  | .status code => code / 100 == 1
  | .header name value => sameName name "status" && tellsInterim value
  | .addHeader name value => sameName name "status" && tellsInterim value
  | _ => false

theorem takeWhile_isDigit_toString (n : Nat) (rest : List Char) :
    ((toString n).toList ++ rest).takeWhile Char.isDigit = Nat.toDigits 10 n ++ rest.takeWhile Char.isDigit := by
  rw [Nat.toString_eq_ofList_toDigits, String.toList_ofList]
  exact List.takeWhile_append_of_pos fun c hc => Nat.isDigit_of_mem_toDigits (by decide) (by decide) hc

theorem statusCode_statusLine (head : ResponseHead) : statusCode head.statusLine = head.status.code := by
  have hdigits : head.statusLine.toList.takeWhile Char.isDigit = Nat.toDigits 10 head.status.code := by
    unfold ResponseHead.statusLine
    split
    · have hall := takeWhile_isDigit_toString head.status.code []
      rwa [List.append_nil, List.takeWhile_nil, List.append_nil] at hall
    · have hall := takeWhile_isDigit_toString head.status.code ((" " : String).toList ++ head.reason.toList)
      rw [String.toList_append, String.toList_append, List.append_assoc, hall]
      exact List.append_nil _
  rw [statusCode, hdigits]
  exact Nat.ofDigitChars_ten_toDigits

theorem tellsInterim_statusLine (head : ResponseHead) :
    tellsInterim head.statusLine = head.status.isInformational := by
  rw [tellsInterim, statusCode_statusLine]
  rfl

/-- A reply tells an interim status just when its head does. -/
theorem isInterim_reply (head : ResponseHead) (version : Version) (close : Bool) :
    (OutFrame.reply (replyHeaders head version) close).isInterim = tellsInterim head.toldStatus := by
  rw [OutFrame.isInterim, replyHeaders_status]
  rfl

namespace ResponseHead

/-- Neither the status of the head nor a field in its place is informational. -/
structure Final (head : ResponseHead) : Prop where
  status : head.status.isInformational = false
  fields : ∀ f ∈ head.headers.fields, f.isNamed "status" = true → tellsInterim f.value = false

theorem Final.told {head : ResponseHead} (h : head.Final) : tellsInterim head.toldStatus = false := by
  unfold toldStatus
  cases hl : (head.headers.values "status").getLast? with
  | none => exact (tellsInterim_statusLine head).trans h.status
  | some value =>
    obtain ⟨f, hf, hv⟩ := List.mem_map.mp (List.mem_of_getLast? hl)
    obtain ⟨hf, hn⟩ := List.mem_filter.mp hf
    rw [Option.getD_some, ← hv]
    exact h.fields f hf hn

theorem final_default : ({} : ResponseHead).Final :=
  ⟨rfl, nofun⟩

/-- Only an operation that sets an interim status gives one to a head. -/
theorem Final.onHead {head : ResponseHead} (h : head.Final) {op : ResponseOp} (hop : op.setsInterim = false) :
    (op.onHead head).Final := by
  have hfield : ∀ {name value : String} {f : Field}, (sameName name "status" && tellsInterim value) = false →
      f.isNamed name = true → f.value = value → f.isNamed "status" = true → tellsInterim f.value = false := by
    intro name value f hset hname hvalue hf
    have hn : sameName name "status" = true := (Field.isNamed_congr hname).trans hf
    rwa [hvalue, ← Bool.true_and (tellsInterim value), ← hn]
  cases op with
  | status code =>
    unfold ResponseOp.onHead
    dsimp only
    split
    · next s hs =>
      refine ⟨?_, h.fields⟩
      rw [← Status.code_of_ofCode hs] at hop
      exact hop
    · exact h
  | header name value =>
    refine ⟨h.status, ?_⟩
    intro f hf hn
    rcases Headers.mem_setIn hf with hf | ⟨hname, hvalue⟩
    · exact h.fields f hf hn
    · exact hfield hop hname hvalue hn
  | addHeader name value =>
    refine ⟨h.status, ?_⟩
    intro f hf hn
    rcases List.mem_append.mp hf with hf | hf
    · exact h.fields f hf hn
    · obtain rfl := List.mem_singleton.mp hf
      exact hfield hop (sameName_refl name) rfl hn
  | reason | version => exact ⟨h.status, h.fields⟩
  | _ => exact h

theorem final_drafted {ops : List ResponseOp} (h : ∀ op ∈ ops, op.setsInterim = false) : (drafted ops).Final := by
  induction ops using List.reverseRecOn with
  | nil => exact final_default
  | append_singleton ops op ih =>
    rw [drafted_snoc]
    split
    · exact final_default
    · exact (ih fun o ho => h o (by simp [ho])).onHead (h op (by simp))

end ResponseHead

/-- Whether a sink takes a head does not depend on its status. -/
theorem ReplyState.headers_status (head : ResponseHead) (status : Status) (buffered : Octets) (last : Bool)
    (x : ReplyState × Link) :
    (headers { head with status := status } buffered last x).1 = (headers head buffered last x).1 := by
  cases hr : x.1.replied with
  | true => simp only [headers, hr, if_true]
  | false =>
    cases ho : x.2.outcome .reply x.2.replies with
    | error e => simp only [headers, hr, Link.sendReply, ho, Bool.false_eq_true, if_false]
    | ok =>
      -- The link fails by the number of a call, not by what the frame holds.
      simp only [headers, hr, Link.sendReply, ho, Bool.false_eq_true, if_false]
      split
      · rfl
      · simp only [data, Link.sendData, Link.deliver, Link.outcome]
        cases faultAt x.2.faults .data x.2.dataFrames <;> rfl

namespace Generator

variable {g : Generator (ReplyState × Link)}

theorem informational_answer (g : Generator (ReplyState × Link)) {status : Status}
    (hs : status.isInformational = true) :
    g.perform (.informational status.code) =
      (.error (if g.phase = .opened then .noInformational else .illegalState .informationalAfterCommit), g) := by
  simp only [perform, withStatus, Status.ofCode_code, informational, hs, if_true]
  cases g.phase <;> rfl

/-- Nothing is sent for an interim response. -/
theorem informational_refused (code : Nat) (g : Generator (ReplyState × Link)) :
    ∃ e, g.perform (.informational code) = (.error e, g) := by
  cases hs : Status.ofCode code with
  | error e => exact ⟨e, by simp only [perform, withStatus, hs]⟩
  | ok status =>
    rw [← Status.code_of_ofCode hs]
    cases hi : status.isInformational with
    | true => exact ⟨_, informational_answer g hi⟩
    | false =>
      simp only [perform, withStatus, Status.ofCode_code, informational, hi, Bool.false_eq_true, if_false]
      exact ⟨_, rfl⟩

/-- A commit answers the same whichever status was set. -/
theorem commit_setStatus (hp : g.phase = .opened) (status : Status) (last : Bool) :
    ((g.setStatus status).commit last).1 = (g.commit last).1 := by
  have hset : g.setStatus status = { g with head := { g.head with status := status } } := changeHead_opened hp _
  rw [hset]
  exact ReplyState.headers_status g.head status g.buffer last g.sink

/-- Whatever an application does to its response and whichever sends fail, an interim response is refused, and
nothing goes out for it. The status of a head is not looked at: its commit answers what it would answer for any
other status, and a reply tells an interim status just when the head did that was drafted before the commit. A
head tells one only if an operation set it. -/
theorem interim_replies (stream : Nat) (version : Version) (faults : List (Fault LinkCall StreamError))
    (capacity : Nat) (omitBody : Bool) (ops : List ResponseOp) :
    let start : Generator (ReplyState × Link) :=
      { Generator.new (({ version := version } : ReplyState), ({ stream := stream, faults := faults } : Link))
          capacity with omitBody := omitBody }
    let g := run ops start
    (∀ code, ∃ e, g.perform (.informational code) = (.error e, g)) ∧
    (∀ status : Status, status.isInformational = true → g.perform (.informational status.code) =
      (.error (if g.phase = .opened then .noInformational else .illegalState .informationalAfterCommit), g)) ∧
    (g.phase = .opened → ∀ status last, ((g.setStatus status).commit last).1 = (g.commit last).1) ∧
    ∀ headers close, .reply headers close ∈ g.sink.2.sent →
      let interim := (OutFrame.reply headers close).isInterim
      headers = replyHeaders g.head version ∧ interim = tellsInterim g.head.toldStatus ∧
      (g.head.headers.values "status" = [] → interim = g.head.status.isInformational) ∧
      ∃ before op after, ops = before ++ op :: after ∧ (run before start).phase = .opened ∧
        g.head = .drafted before ∧ (interim = true → ∃ set ∈ before, set.setsInterim = true) := by
  intro start g
  refine ⟨fun code => informational_refused code g, fun _ => informational_answer g,
    fun hp => commit_setStatus hp, ?_⟩
  intro headers close hm interim
  have hstart : Replied version start := ⟨rfl, fun _ => nofun, nofun⟩
  have hg : Replied version g := (replied_persists version).run hstart ops
  have hn : g.phase ≠ .opened := fun hp => hg.silent hp headers close hm
  obtain ⟨before, op, after, hops, hopened, -, hhead⟩ := run_committed (g := start) rfl rfl hn
  have hheaders : headers = replyHeaders g.head version := hg.fields headers close hm
  have htold : interim = tellsInterim g.head.toldStatus := by
    rw [← isInterim_reply g.head version close, ← hheaders]
  refine ⟨hheaders, htold, ?_, before, op, after, hops, hopened, hhead, ?_⟩
  · intro hnone
    rw [htold, ResponseHead.toldStatus, hnone]
    exact tellsInterim_statusLine g.head
  · intro hi
    by_contra hset
    have hfinal : g.head.Final := by
      rw [hhead]
      exact ResponseHead.final_drafted (by simpa using hset)
    rw [htold, hfinal.told] at hi
    cases hi

/-- An interim response that is refused, and a head with an interim status that is sent. -/
theorem interim_refused_then_replied :
    let start := Generator.new (({ version := .http11 } : ReplyState), ({} : Link)) 16
    let g := run [.informational 103, .status 199, .write [104, 105], .flush] start
    let headers := replyHeaders g.head .http11
    (run [] start).perform (.informational 100) = (.error .noInformational, start) ∧
    ((start.setStatus { code := 100 }).commit true).1 = .ok () ∧
    .reply headers false ∈ g.sink.2.sent ∧ (OutFrame.reply headers false).isInterim = true ∧
    ∃ before, g.head = .drafted before ∧ ∃ set ∈ before, set.setsInterim = true := by
  intro start g headers
  obtain ⟨-, hrefused, hcommit, -⟩ := interim_replies 1 .http11 [] 16 false []
  have hsent : .reply headers false ∈ g.sink.2.sent := by decide +kernel
  obtain ⟨-, -, -, hreplies⟩ := interim_replies 1 .http11 [] 16 false
    [.informational 103, .status 199, .write [104, 105], .flush]
  obtain ⟨-, -, hstatus, before, -, -, -, -, hhead, hset⟩ := hreplies headers false hsent
  have hinterim : (OutFrame.reply headers false).isInterim = true :=
    (hstatus (by decide +kernel)).trans (by decide +kernel)
  have htaken : (start.commit true).1 = .ok () := by decide +kernel
  exact ⟨hrefused { code := 100 } rfl, (hcommit rfl { code := 100 } true).trans htaken, hsent, hinterim, before,
    hhead, hset hinterim⟩

/-- A response that is completed with the status 100 is sent as a reply, and the completion succeeds. -/
theorem interim_reply_sent :
    let start := Generator.new (({ version := .http11 } : ReplyState), ({} : Link)) 16
    let g := run [.status 100] start
    g.complete.1 = .ok () ∧
    g.complete.2.sink.2.sent =
      [.reply (.ofPairs [("status", "100 Continue"), ("version", "HTTP/1.1")]) true] ∧
    g.complete.2.sink.2.sent.any OutFrame.isInterim = true := by
  decide +kernel

end Generator

end FramedHttp
