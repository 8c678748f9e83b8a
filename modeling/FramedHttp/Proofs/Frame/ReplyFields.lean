import FramedHttp.Proofs.Frame.Link
import FramedHttp.Proofs.Headers

/-!
# What a reply tells

A reply has the status and the version of its response in front, and the header fields of the response are
set over them. A field that has one of the two names therefore tells in their place, and the last such field
is the one that is read.
-/

set_option autoImplicit false

namespace FramedHttp

namespace Headers

/-- Of fields that are set one after the other, the last one of a name tells its value. -/
theorem get?_foldl_set (fields : List Field) (h : Headers) (name : String) :
    (fields.foldl (fun h f => h.set f.name f.value) h).get? name =
      (values ⟨fields⟩ name).getLast?.or (h.get? name) := by
  induction fields generalizing h with
  | nil => rfl
  | cons f fields ih =>
    rw [List.foldl_cons, ih, values_cons]
    by_cases hf : f.isNamed name = true
    · have hset : (h.set f.name f.value).get? name = some f.value :=
        (get?_congr hf _).symm.trans (get?_set_self h f.name f.value)
      rw [if_pos hf, hset, List.getLast?_cons, Option.or_some]
      rfl
    · rw [if_neg hf, get?_set_of_ne (Bool.eq_false_iff.mpr hf)]

end Headers

open Headers

/-- A name that stands in front of a reply is told by the response's last field of that name, if it has one. -/
theorem replyHeaders_get? (head : ResponseHead) (version : Version) (name : String) :
    (replyHeaders head version).get? name = (head.headers.values name).getLast?.or
      ((Headers.ofPairs [("status", head.statusLine), ("version", version.name)]).get? name) :=
  get?_foldl_set head.headers.fields _ name

theorem replyHeaders_status (head : ResponseHead) (version : Version) :
    (replyHeaders head version).get? "status" =
      some ((head.headers.values "status").getLast?.getD head.statusLine) := by
  have hs : (Headers.ofPairs [("status", head.statusLine), ("version", version.name)]).get? "status" =
      some head.statusLine := by
    have hn : Field.isNamed ⟨"status", head.statusLine⟩ "status" = true := sameName_refl _
    rw [ofPairs, List.map_cons, get?_cons, if_pos hn]
  rw [replyHeaders_get?, hs]
  cases (head.headers.values "status").getLast? <;> rfl

theorem replyHeaders_version (head : ResponseHead) (version : Version) :
    (replyHeaders head version).get? "version" =
      some ((head.headers.values "version").getLast?.getD version.name) := by
  have hv : (Headers.ofPairs [("status", head.statusLine), ("version", version.name)]).get? "version" =
      some version.name := by
    have hd : ¬ sameName "status" "version" = true := by decide
    have hs : ¬ Field.isNamed ⟨"status", head.statusLine⟩ "version" = true := hd
    have hn : Field.isNamed ⟨"version", version.name⟩ "version" = true := sameName_refl _
    rw [ofPairs, List.map_cons, List.map_cons, get?_cons, if_neg hs, get?_cons, if_pos hn]
  rw [replyHeaders_get?, hv]
  cases (head.headers.values "version").getLast? <;> rfl

namespace ReplyState

variable {x : ReplyState × Link} {headers : Headers} {close : Bool}

theorem data_reply {octets : Octets} {last : Bool} (h : .reply headers close ∈ (data octets last x).2.2.sent) :
    .reply headers close ∈ x.2.sent := by
  cases hr : x.2.outcome .data x.2.dataFrames with
  | error e => simpa [data, Link.sendData, Link.deliver, hr] using h
  | ok => simpa [data, Link.sendData, Link.deliver, hr] using h

theorem data_version (octets : Octets) (last : Bool) (x : ReplyState × Link) :
    (data octets last x).2.1.version = x.1.version := by
  cases hr : x.2.outcome .data x.2.dataFrames <;> simp [data, Link.sendData, hr]

/-- A reply goes out for the first headers of a response only, with the fields made of them, and it closes just
when no octets come with them. -/
theorem emit_reply {e : Emission} (h : .reply headers close ∈ (emit e x).2.2.sent) :
    .reply headers close ∈ x.2.sent ∨
      ∃ head buffered last, e = .headers head buffered last ∧ x.1.replied = false ∧
        headers = replyHeaders head x.1.version ∧ close = buffered.isEmpty := by
  have hs := emit_sending e x
  generalize emit e x = r at hs h
  cases hs with
  | nothing | lost => exact .inl h
  | data => exact .inl (data_reply h)
  | @bare head last hr =>
    rcases List.mem_append.mp h with h | h
    · exact .inl h
    · cases List.mem_singleton.mp h
      exact .inr ⟨head, [], last, rfl, hr, rfl, rfl⟩
  | @opened head buffered last hr _ hb =>
    rcases List.mem_append.mp (data_reply h) with h | h
    · exact .inl h
    · cases List.mem_singleton.mp h
      exact .inr ⟨head, buffered, last, rfl, hr, rfl, (List.isEmpty_eq_false_iff.mpr hb).symm⟩

theorem emit_version (e : Emission) (x : ReplyState × Link) : (emit e x).2.1.version = x.1.version := by
  have hs := emit_sending e x
  generalize emit e x = r at hs
  cases hs with
  | nothing | lost | bare => rfl
  | data | opened => exact data_version _ _ _

end ReplyState

namespace Generator

open ReplyState

/-- The replies that a response has sent are made of its head, which is fixed once there is one. -/
structure Replied (version : Version) (g : Generator (ReplyState × Link)) : Prop where
  configured : g.sink.1.version = version
  silent : g.phase = .opened → ∀ headers close, .reply headers close ∉ g.sink.2.sent
  fields : ∀ headers close, .reply headers close ∈ g.sink.2.sent → headers = replyHeaders g.head version

variable {version : Version} {g : Generator (ReplyState × Link)}

/-- After the commit the head is not sent again. -/
theorem replied_emit (h : Replied version g) {e : Emission} (he : e.kind? ≠ some .headers) :
    Replied version (g.emit e).2 := by
  have hs : ∀ headers close, .reply headers close ∈ (g.emit e).2.sink.2.sent →
      .reply headers close ∈ g.sink.2.sent := by
    intro headers close hm
    rcases emit_reply hm with hm | ⟨_, _, _, rfl, _⟩
    · exact hm
    · exact absurd rfl he
  constructor
  · exact (emit_version e g.sink).trans h.configured
  · intro hp headers close hm
    exact h.silent hp headers close (hs headers close hm)
  · intro headers close hm
    exact h.fields headers close (hs headers close hm)

theorem replied_commit (h : Replied version g) (hp : g.phase = .opened) (last : Bool) :
    Replied version (g.commit last).2 := by
  constructor
  · exact (emit_version _ g.sink).trans h.configured
  · intro hc
    cases hc
  · intro headers close hm
    rcases emit_reply (e := .headers g.head g.buffer last) hm with hm | ⟨head, buffered, last', he, _, hh, _⟩
    · exact absurd hm (h.silent hp headers close)
    · injection he with he
      have hv : g.sink.1.version = version := h.configured
      rw [hh, ← he]
      exact congrArg _ hv

theorem replied_persists (version : Version) : Persists (Replied version) where
  change h hp head := ⟨h.configured, h.silent, fun headers close hm => absurd hm (h.silent hp headers close)⟩
  reset h hp := ⟨h.configured, h.silent, fun headers close hm => absurd hm (h.silent hp headers close)⟩
  gather h _ _ := ⟨h.configured, h.silent, h.fields⟩
  commit h hp last := replied_commit h hp last
  emitBuffer {g} h hp last :=
    replied_emit (g := { g with buffer := [] }) ⟨h.configured, h.silent, h.fields⟩ nofun
  close {g} h hp :=
    replied_emit (g := { g with phase := .completed }) ⟨h.configured, nofun, h.fields⟩ nofun
  aside h e he := replied_emit h (by rw [he]; nofun)

/-- A reply tells the status line of its response and the configured version, unless a header field of the
response has one of the two names: then it tells the last such field. That holds of every head, and of every
reply that a response sends, whatever an application does to the response and whichever sends fail. -/
theorem reply_tells (stream : Nat) (version : Version) (faults : List (Fault LinkCall StreamError))
    (capacity : Nat) (omitBody : Bool) (ops : List ResponseOp) :
    let start : Generator (ReplyState × Link) :=
      { Generator.new (({ version := version } : ReplyState), ({ stream := stream, faults := faults } : Link))
          capacity with omitBody := omitBody }
    let g := run ops start
    let status := g.head.headers.values "status"
    let versions := g.head.headers.values "version"
    (∀ (head : ResponseHead) (v : Version),
      (replyHeaders head v).get? "status" =
        some ((head.headers.values "status").getLast?.getD head.statusLine) ∧
      (replyHeaders head v).get? "version" = some ((head.headers.values "version").getLast?.getD v.name)) ∧
    ∀ headers close, .reply headers close ∈ g.sink.2.sent →
      headers = replyHeaders g.head version ∧
      (headers.get? "status" = some g.head.statusLine ↔ ∀ value ∈ status.getLast?, value = g.head.statusLine) ∧
      (headers.get? "version" = some version.name ↔ ∀ value ∈ versions.getLast?, value = version.name) := by
  intro start g status versions
  have hstart : Replied version start := ⟨rfl, fun _ => nofun, nofun⟩
  have hg : Replied version g := (replied_persists version).run hstart ops
  have htold : ∀ (values : List String) (line : String),
      some (values.getLast?.getD line) = some line ↔ ∀ value ∈ values.getLast?, value = line := by
    intro values line
    cases values.getLast? <;> simp
  constructor
  · intro head v
    exact ⟨replyHeaders_status head v, replyHeaders_version head v⟩
  · intro headers close hm
    have hh : headers = replyHeaders g.head version := hg.fields headers close hm
    rw [hh, replyHeaders_status, replyHeaders_version]
    exact ⟨rfl, htold status _, htold versions _⟩

/-- A response whose fields have names of their own, over a link that loses its first data frame. -/
theorem flushed_reply_tells :
    let faults : List (Fault LinkCall StreamError) := [⟨.data, 0, .transport "lost"⟩]
    let ops : List ResponseOp := [.status 404, .header "Content-Type" "text/plain", .write [104, 105], .flush]
    let g := run ops (Generator.new (({ version := .http10 } : ReplyState), ({ faults := faults } : Link)) 16)
    let headers := replyHeaders g.head .http10
    .reply headers false ∈ g.sink.2.sent ∧ headers.get? "status" = some g.head.statusLine ∧
      headers.get? "version" = some "HTTP/1.0" ∧ g.head.statusLine = "404 Not Found" := by
  intro faults ops g headers
  have hsent : .reply headers false ∈ g.sink.2.sent := by decide +kernel
  obtain ⟨_, hstatus, hversion⟩ := (reply_tells 1 .http10 faults 16 false ops).2 headers false hsent
  exact ⟨hsent, hstatus.mpr (by decide +kernel), hversion.mpr (by decide +kernel), by decide +kernel⟩

/-- Fields named `Status` and `VERSION` tell in place of the status line and the configured version. -/
theorem status_field_tells :
    let ops : List ResponseOp :=
      [.status 200, .header "Status" "404 Not Found", .addHeader "VERSION" "HTTP/1.0", .complete]
    let g := run ops (Generator.new (({ version := .http11 } : ReplyState), ({} : Link)) 16)
    let headers := replyHeaders g.head .http11
    g.sink.2.sent = [.reply headers true] ∧ g.head.statusLine = "200 OK" ∧
      headers.get? "status" = some "404 Not Found" ∧ headers.get? "version" = some "HTTP/1.0" := by
  decide +kernel

end Generator

end FramedHttp
