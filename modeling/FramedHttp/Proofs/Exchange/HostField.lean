import FramedHttp.Exchange.Service
import FramedHttp.Proofs.Exchange.Abandoned
import FramedHttp.Proofs.Headers
import FramedHttp.Proofs.Stream.Refusal

/-!
# The host of a request

The host that an engine is told comes from target fields alone. The target of the request is the first of
them in the first metadata, but the host is told field by field, for every target field in any metadata of the
header section. So it is the host of the request's target, and the only one, exactly where no further target
field names a host.
-/

set_option autoImplicit false

namespace FramedHttp

open Content

/-- The engine takes the request line and the header fields, whatever they are. -/
def Engine.TakesHeaders (ε : Type) [Engine ε] : Prop :=
  ∀ (cb : Callback) (occasion : Occasion) (s : Seat ε), cb.line?.isSome = true ∨ cb.field?.isSome = true →
    (Engine.call cb occasion s).1 = .ok ()

theorem Exchange.takes_headers {σ : Type} [Sink (σ × Link)] : Engine.TakesHeaders (Exchange σ) := by
  intro cb occasion s h
  cases cb with
  | start => rfl
  | field => rfl
  | _ => simp [Callback.line?, Callback.field?] at h

section Fields

variable {translator : Translator}

/-- The host that a metadata field stands for, if any. -/
theorem headerField_host (f : Field) :
    Headers.values ⟨(headerField translator f).toList⟩ "host" =
      if translator.synthesizeHost && f.isNamed "url" then (translator.host? f.value).toList else [] := by
  have hapart : ∀ name ∈ ["method", "version", "connection", "keep-alive", "host"], sameName name "url" = false := by
    decide +kernel
  unfold headerField
  split
  · next hd =>
    obtain ⟨name, hname, hn⟩ := List.any_eq_true.mp hd
    have hu : f.isNamed "url" = false := (Field.isNamed_congr hn).symm.trans (hapart name hname)
    simp [hu, Headers.values]
  · next hd =>
    split
    · next hu =>
      rw [hu, Bool.and_true]
      cases translator.synthesizeHost <;> cases translator.host? f.value <;> simp [Headers.values, Field.isNamed]
    · next hu =>
      have hh : f.isNamed "host" = false := by
        apply Bool.eq_false_iff.mpr
        intro hh
        exact hd (List.any_eq_true.mpr ⟨"host", by simp, hh⟩)
      simp [Headers.values, hu, hh]

/-- The hosts that metadata stands for are those of its target fields. -/
theorem headerField_hosts (fields : List Field) :
    Headers.values ⟨fields.filterMap (headerField translator)⟩ "host" =
      if translator.synthesizeHost then (Headers.values ⟨fields⟩ "url").filterMap translator.host? else [] := by
  induction fields with
  | nil => cases translator.synthesizeHost <;> rfl
  | cons f rest ih =>
    have hfront : (f :: rest).filterMap (headerField translator) =
        (headerField translator f).toList ++ rest.filterMap (headerField translator) := by
      cases hf : headerField translator f <;> simp [hf]
    have htarget : (Headers.values ⟨[f]⟩ "url").filterMap translator.host? =
        if f.isNamed "url" then (translator.host? f.value).toList else [] := by
      cases hu : f.isNamed "url" with
      | false => simp [Headers.values, hu]
      | true => cases hh : translator.host? f.value <;> simp [Headers.values, hu, hh]
    rw [hfront, Headers.values_concat, headerField_host, ih, ← List.singleton_append, Headers.values_concat,
      List.filterMap_append, htarget]
    cases translator.synthesizeHost <;> simp

/-- All of these hosts are the expected one and there is at most one, exactly where no others are added. -/
theorem single_host_iff {host? : Option String} {others : List String} :
    ((host?.toList ++ others).length ≤ 1 ∧ ∀ host ∈ host?.toList ++ others, host? = some host) ↔ others = [] := by
  cases host? with
  | none =>
    constructor
    · rintro ⟨_, h⟩
      cases others with
      | nil => rfl
      | cons host rest => cases h host (by simp)
    · rintro rfl
      simp
  | some host =>
    constructor
    · rintro ⟨h, _⟩
      apply List.length_eq_zero_iff.mp
      simp at h
      simp [h]
    · rintro rfl
      simp

end Fields

theorem RequestLine.target_of_ok {h : Headers} {line : RequestLine} (hl : ofHeaders h = .ok line) :
    h.get? "url" = some line.target := by
  have hcomplete : ¬ Incomplete h := by
    intro hi
    obtain ⟨e, he⟩ := incomplete_iff.mp hi
    cases hl.symm.trans he
  cases hm : h.get? "method" with
  | none => exact absurd (.inl hm) hcomplete
  | some method =>
    cases hu : h.get? "url" with
    | none => exact absurd (.inr (.inl hu)) hcomplete
    | some target =>
      cases hv : h.get? "version" with
      | none => exact absurd (.inr (.inr hv)) hcomplete
      | some version =>
        have hline : ofHeaders h = .ok ⟨method, target, version⟩ := Stream.ofHeaders_complete hm hu hv
        cases hline.symm.trans hl
        rfl

namespace Stream

variable {ε : Type} [Engine ε]

/-- What an engine was told of the header section from one state to another: these fields, but no start. -/
structure Heads (fields : List Field) (s t : Stream ε) : Prop where
  line : t.callbacks.filterMap Callback.line? = s.callbacks.filterMap Callback.line?
  fields : t.callbacks.filterMap Callback.field? = s.callbacks.filterMap Callback.field? ++ fields

section Heads

variable {fields more : List Field} {chunks : List Octets} {s t u : Stream ε} {translator : Translator}

omit [Engine ε] in
theorem Heads.same (hc : t.callbacks = s.callbacks) : Heads [] s t where
  line := by rw [hc]
  fields := by rw [hc, List.append_nil]

omit [Engine ε] in
theorem Heads.trans (h : Heads fields s t) (k : Heads more t u) : Heads (fields ++ more) s u where
  line := k.line.trans h.line
  fields := by rw [k.fields, h.fields, List.append_assoc]

omit [Engine ε] in
theorem Tells.heads (h : Tells fields chunks s t) : Heads fields s t :=
  ⟨h.line, h.fields⟩

variable (hε : Engine.TakesHeaders ε)
include hε

theorem forwardFields_taken (s : Stream ε) : s.forwardFields.1 = .ok () := by
  have hfields : ∀ (fields : List Field) (t : Stream ε),
      (invokeAll (fields.map fun f => .field f.name f.value) t).1 = .ok () := by
    intro fields
    induction fields with
    | nil => exact fun t => rfl
    | cons f fields ih =>
      intro t
      rw [List.map_cons, invokeAll, invoke_ok (hε _ _ _ (.inr rfl)), Outcome.andThen_ok]
      exact ih _
  unfold forwardFields
  split
  · rfl
  · exact hfields _ _

/-- Metadata that continues a header section, or comes too late for it. -/
theorem metadata_unfailing (hs : Underway translator s) (headers : Headers) (cause : EngineError) :
    (s.onMetadata headers).1 ≠ .error (.http cause) := by
  rcases underway_stages hs with hi | hi
  · rw [onMetadata_open hs.accepted hi, forwardFields_taken hε]
    rintro ⟨⟩
  · have hb : s.state.canBlock = true := by
      rcases hi with hi | hi
      · cases hc : s.state <;> simp [hc, Lifecycle.isReading] at hi <;> rfl
      · simp [hi, Lifecycle.canBlock]
    rw [onMetadata_past hs.accepted hb]
    rintro ⟨⟩

/-- The first metadata, where it has a request line. -/
theorem first_taken {first : Headers} {line : RequestLine} (hs : Unbegun translator s)
    (hne : first.isEmpty = false) (hl : RequestLine.ofHeaders first = .ok line) : (s.onMetadata first).1 = .ok () := by
  rw [onMetadata_first hs.accepted hs.initial hne, run_complete s hl, invoke_ok (hε _ _ _ (.inl rfl)),
    Outcome.andThen_ok]
  exact forwardFields_taken hε _

variable (hb : Engine.Abides ε)
include hb

omit hε in
/-- A body frame tells nothing of the header section, also where it fails. -/
theorem heads_body (hs : Underway translator s) (data : Octets) (last : Bool) :
    Heads [] s (s.onBody data last).2 := by
  apply unlessRejected_keeps (P := Heads [] s) (.same rfl)
  apply Outcome.andThen_keeps (P := Heads [] s) (tells_headersEnd hb hs).heads
  intro t ht
  apply unlessRejected_keeps (P := Heads [] s) ht
  unfold takeBody
  split
  · split
    · next b _ =>
      rw [run_enter (by decide)]
      have hc : Heads [] t ((t.withBuffer b).reach .body).announceChunk.2 := by
        unfold announceChunk
        split
        · exact .same rfl
        · exact ⟨by simp [Callback.line?], by simp [Callback.field?]⟩
      exact ht.trans hc
    · exact ht
  · exact ht

/-- What an engine that takes headers is told of the header section by one call. -/
theorem heads_call (hs : Underway translator s) (c : StreamCall) :
    Heads ((s.fieldsTaken c).filterMap (headerField translator)) s (s.call c).2 := by
  cases c with
  | receive frame =>
    cases frame with
    | metadata headers => exact (tells_metadata hb hs headers (metadata_unfailing hε hs headers)).heads
    | headersEnd => exact (tells_headersEnd hb hs).heads
    | body data last => exact heads_body hb hs data last
    | streamEnd => exact (tells_end hb hs).heads
  | _ => exact (tells_call hb hs _ (by rintro frame h; cases h)).heads

theorem heads_replay (hs : Underway translator s) (calls : List StreamCall) :
    Heads ((s.record fieldsTaken calls).filterMap (headerField translator)) s (s.replay calls) := by
  induction calls generalizing s with
  | nil => exact .same rfl
  | cons c calls ih =>
    rw [record, List.filterMap_append]
    exact (heads_call hε hb hs c).trans (ih ((underway_kept translator).call hs c))

/-- From its start on an engine is told the fields of all metadata taken, those of the first metadata first. -/
theorem headed_replay {first : Headers} {line : RequestLine} (hs : Unbegun translator s)
    {calls : List StreamCall} (hfirst : firstMetadata calls = some first)
    (hl : RequestLine.ofHeaders first = .ok line) :
    (s.replay calls).callbacks.filterMap Callback.line? = [line] ∧
      (s.replay calls).callbacks.filterMap Callback.field? =
        (s.record fieldsTaken calls).filterMap (headerField translator) ∧
      ∃ rest, s.record fieldsTaken calls = first.fields ++ rest := by
  induction calls generalizing s with
  | nil => cases hfirst
  | cons c calls ih =>
    cases ho : opens? c with
    | none =>
      obtain ⟨ht, hf, _⟩ := unbegun_call hs ho
      rw [firstMetadata, List.findSome?_cons_of_isNone (by simp [ho])] at hfirst
      rw [record, hf, List.nil_append]
      exact ih ht hfirst
    | some headers =>
      have hh : headers = first := by simpa [firstMetadata, ho] using hfirst
      obtain ⟨rfl, hne⟩ := opens?_eq_some (hh ▸ ho)
      have htaken := first_taken hε hs hne hl
      have hfields : s.fieldsTaken (.receive (.metadata first)) = first.fields := by
        simp [fieldsTaken, takes, receive, htaken]
      have ht := told_first hb hs hne hl (by simp [htaken])
      have hrest := heads_replay hε hb (first_underway hs hne hl) calls
      have hfront : s.record fieldsTaken (.receive (.metadata first) :: calls) =
          first.fields ++ (s.onMetadata first).2.record fieldsTaken calls := by
        rw [record, hfields]
        rfl
      have hreplay : s.replay (.receive (.metadata first) :: calls) = (s.onMetadata first).2.replay calls := rfl
      rw [hfront, hreplay, hrest.line, hrest.fields, ht.line, ht.fields, hfields, List.filterMap_append]
      exact ⟨rfl, rfl, _, rfl⟩

omit hε hb in
/-- Without a request line nothing is ever told. -/
theorem untold_replay (hs : Unbegun translator s) {calls : List StreamCall}
    (h : ∀ first, firstMetadata calls = some first → RequestLine.Incomplete first) :
    (s.replay calls).callbacks = [] := by
  induction calls generalizing s with
  | nil => exact hs.untold
  | cons c calls ih =>
    cases ho : opens? c with
    | none =>
      rw [firstMetadata, List.findSome?_cons_of_isNone (by simp [ho])] at h
      exact ih (unbegun_call hs ho).1 h
    | some first =>
      have hfirst : firstMetadata (c :: calls) = some first := by simp [firstMetadata, ho]
      obtain ⟨e, he⟩ := RequestLine.incomplete_iff.mp (h first hfirst)
      exact (replay_turned_away hs hfirst he).untold

end Heads

end Stream

open FramedHttp.Stream

namespace Session

/-- An exchange is told the hosts that the target fields of its metadata name, field by field, and the first of
these fields is the target of its request. All of the hosts are the host of that target, and there is at most
one, exactly where no further target field names a host or no host is derived at all. This holds whatever reads
the host off a target. -/
theorem host_of_target (settings : Settings) (link : Link) (pressure : Bool) (handler : Handler)
    (calls : List StreamCall) :
    let start := (new settings link pressure handler).stream
    let s := start.replay calls
    let targets := Headers.values ⟨start.record fieldsTaken calls⟩ "url"
    let hosts := Headers.values ⟨s.callbacks.filterMap Callback.field?⟩ "host"
    (s.callbacks.filterMap Callback.line? = [] → hosts = []) ∧
    ∀ line ∈ s.callbacks.filterMap Callback.line?,
      targets.head? = some line.target ∧
      hosts = (if settings.synthesizeHost then targets.filterMap settings.host? else []) ∧
      ((hosts.length ≤ 1 ∧ ∀ host ∈ hosts, settings.host? line.target = some host) ↔
        settings.synthesizeHost = false ∨ targets.tail.filterMap settings.host? = []) := by
  intro start s targets hosts
  have hs : Unbegun settings.toTranslator start := ⟨rfl, rfl, rfl, rfl, rfl⟩
  have hb : Engine.Abides (Exchange ReplyState) := Engine.abides_of_consumes Exchange.consumes_only
  have huntold : s.callbacks = [] → hosts = [] := by
    intro hc
    simp [hosts, hc, Headers.values]
  cases hfirst : firstMetadata calls with
  | none =>
    have hc : s.callbacks = [] := untold_replay hs (by simp [hfirst])
    exact ⟨fun _ => huntold hc, by simp [hc]⟩
  | some first =>
    cases hl : RequestLine.ofHeaders first with
    | error e =>
      have hc : s.callbacks = [] := untold_replay hs (by simp [hfirst, RequestLine.incomplete_iff, hl])
      exact ⟨fun _ => huntold hc, by simp [hc]⟩
    | ok line =>
      obtain ⟨hline, hfields, rest, hrecord⟩ := headed_replay Exchange.takes_headers hb hs hfirst hl
      have hhosts : hosts = if settings.synthesizeHost then targets.filterMap settings.host? else [] := by
        rw [← headerField_hosts]
        exact congrArg (fun fields => Headers.values ⟨fields⟩ "host") hfields
      have hhead : targets.head? = some line.target := by
        rw [Headers.head?_values, hrecord, Headers.get?_append, RequestLine.target_of_ok hl, Option.some_or]
      obtain ⟨more, htargets⟩ := List.head?_eq_some_iff.mp hhead
      have hall : targets.filterMap settings.host? =
          (settings.host? line.target).toList ++ targets.tail.filterMap settings.host? := by
        rw [htargets]
        cases hh : settings.host? line.target <;> simp [hh]
      constructor
      · intro hn
        cases hline.symm.trans hn
      · intro told htold
        rw [show s.callbacks.filterMap Callback.line? = [line] from hline, List.mem_singleton] at htold
        subst htold
        refine ⟨hhead, hhosts, ?_⟩
        rw [hhosts]
        cases settings.synthesizeHost with
        | false => simp
        | true =>
          rw [if_pos rfl, hall, or_iff_right (by decide)]
          exact single_host_iff

/-- A second metadata with a target of its own: two hosts are told, and the second one is not that of the target
with which the request was started. -/
theorem second_host_told :
    let first := Headers.ofPairs [("method", "GET"), ("url", "http://[2001:db8::1]/"), ("version", "HTTP/1.1")]
    let second := Headers.ofPairs [("url", "http://[2001:db8::2]/")]
    let calls : List StreamCall := [.receive (.metadata first), .receive (.metadata second)]
    let s := (new {} {} true []).stream.replay calls
    let hosts := Headers.values ⟨s.callbacks.filterMap Callback.field?⟩ "host"
    s.callbacks.filterMap Callback.line? = [⟨"GET", "http://[2001:db8::1]/", "HTTP/1.1"⟩] ∧
      hosts = ["[2001:db8::1]", "[2001:db8::2]"] ∧
      ¬ (hosts.length ≤ 1 ∧ ∀ host ∈ hosts, Url.authority? "http://[2001:db8::1]/" = some host) := by
  decide +kernel

end Session

end FramedHttp
