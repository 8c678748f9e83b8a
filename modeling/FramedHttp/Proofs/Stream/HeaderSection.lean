import FramedHttp.Proofs.Stream.Conservation
import FramedHttp.Proofs.Stream.NeverFails

/-!
# Header sections in frames

A request starts with the first metadata that is not empty; what comes as metadata after it continues the
header section. An engine is told the header fields of all of it, in one sequence, and how the header section
was cut into frames does not show.
-/

set_option autoImplicit false

namespace FramedHttp

open Content Content.Buffer

theorem Engine.abides_of_consumes {ε : Type} [Engine ε] (h : Engine.Consumes ε) : Engine.Abides ε := by
  intro cb occasion s hs
  exact (released_discarding (h cb occasion s)).trans hs

namespace Stream

variable {ε : Type} [Engine ε]

/-- Nothing has come yet that a request could start with. -/
structure Unbegun (translator : Translator) (s : Stream ε) : Prop where
  settled : s.pending = false
  accepted : s.rejected = false
  initial : s.state = .initial
  untold : s.callbacks = []
  translates : s.translator = translator

/-- The stream after its start, with the header section open. -/
def started (line : RequestLine) (s : Stream ε) : Stream ε :=
  { ((s.reach .requestLine).invoke (.start line.method line.target line.version)).2 with
    state := .headerFields, metadata := none }

section Opening

variable {translator : Translator} {s : Stream ε} {headers : Headers} {line : RequestLine}

/-- The first metadata tells the start and its own fields. -/
theorem first_told (hs : Unbegun translator s) (hne : headers.isEmpty = false)
    (hl : RequestLine.ofHeaders headers = .ok line)
    (hok : ∀ cause, (s.onMetadata headers).1 ≠ .error (.http cause)) :
    s.onMetadata headers = invokeAll (fieldCallbacks translator headers.fields) (s.started line) := by
  have hr := (onMetadata_first hs.accepted hs.initial hne).trans (run_complete s hl)
  rw [hr] at hok ⊢
  rcases hi : (s.opening headers).invoke (.start line.method line.target line.version) with ⟨e | _, t⟩
  · obtain ⟨cause, rfl⟩ := invoke_engine_only _ _ e (congrArg Prod.fst hi)
    rw [hi] at hok
    exact absurd rfl (hok cause)
  · have ht : t = ((s.opening headers).invoke (.start line.method line.target line.version)).2 :=
      (congrArg Prod.snd hi).symm
    have hm : (t.reach .headerFields).metadata = some headers := by simp [ht, opening]
    have hstarted : { t.reach .headerFields with metadata := none } = s.started line := by
      rw [ht, started, invoke_snd, invoke_snd]
      rfl
    have hhost : (t.reach .headerFields).translator = translator := by
      rw [ht, invoke_snd]
      exact hs.translates
    rw [Outcome.andThen_ok, forwardFields_told hm, hstarted, hhost]

/-- The header section is open, and all metadata so far was told. -/
structure Open (translator : Translator) (s : Stream ε) : Prop where
  settled : s.pending = false
  accepted : s.rejected = false
  stage : s.state = .headerFields
  told : s.metadata = none
  translates : s.translator = translator

theorem open_started (hs : Unbegun translator s) (line : RequestLine) :
    Open translator (s.started line) where
  settled := by simp [started]
  accepted := by simpa [started] using hs.accepted
  stage := rfl
  told := rfl
  translates := by
    rw [started, invoke_snd]
    exact hs.translates

theorem open_invokeAll (hs : Open translator s) (cbs : List Callback) :
    Open translator (invokeAll cbs s).2 := by
  apply invokeAll_keeps (P := Open translator) _ hs
  intro cb _ t ht
  exact ⟨by simpa using ht.settled, by simpa using ht.accepted, by simpa using ht.stage, by simpa using ht.told,
    by simpa [invoke] using ht.translates⟩

/-- Once its line is read the request goes on, also where a callback fails. -/
theorem first_underway (hs : Unbegun translator s) (hne : headers.isEmpty = false)
    (hl : RequestLine.ofHeaders headers = .ok line) : Underway translator (s.onMetadata headers).2 := by
  have hopening : Underway translator (s.opening headers) := ⟨rfl, hs.accepted, nofun, hs.translates⟩
  rw [onMetadata_first hs.accepted hs.initial hne, run_complete s hl]
  apply Outcome.andThen_keeps (P := Underway translator) (invoke_underway hopening _)
  intro t ht
  apply forwardFields_keeps (P := Underway translator)
  · intro f u hu
    exact invoke_underway hu _
  · exact ⟨rfl, ht.accepted, nofun, ht.translates⟩

/-- More metadata tells its fields. -/
theorem open_told (hs : Open translator s) (headers : Headers) :
    s.onMetadata headers = invokeAll (fieldCallbacks translator headers.fields) s := by
  have he : { { s with metadata := some headers }.reach .headerFields with metadata := none } = s := by
    obtain ⟨hp, _, hi, hm, _⟩ := hs
    cases s
    simp_all [reach]
  have hm : ({ s with metadata := some headers }.reach .headerFields).metadata = some headers := rfl
  rw [onMetadata_open hs.accepted (.inr hs.stage), forwardFields_told hm, he, ← hs.translates]
  rfl

/-- The metadata with which a call opens a request. -/
def opens? : StreamCall → Option Headers
  | .receive (.metadata headers) => if headers.isEmpty then none else some headers
  | _ => none

/-- The first metadata that is not empty. -/
def firstMetadata (calls : List StreamCall) : Option Headers :=
  calls.findSome? opens?

theorem opens?_eq_some {c : StreamCall} (h : opens? c = some headers) :
    c = .receive (.metadata headers) ∧ headers.isEmpty = false := by
  unfold opens? at h
  split at h
  · split at h
    · cases h
    · next hne =>
      cases h
      exact ⟨rfl, Bool.eq_false_iff.mpr hne⟩
  · cases h

theorem onMetadata_empty (hs : Unbegun translator s) (hn : headers.isEmpty = true) :
    s.onMetadata headers = (.ok (), s) := by
  simp [onMetadata, unlessRejected, hs.accepted, hs.initial, hn]

/-- Before the first metadata a frame changes nothing, and nothing of it is taken. -/
theorem unbegun_receive (hs : Unbegun translator s) {frame : InFrame} (hc : opens? (.receive frame) = none) :
    (s.receive frame).2 = s ∧ s.fieldsTaken (.receive frame) = [] ∧ s.chunksTaken (.receive frame) = [] := by
  cases frame with
  | metadata headers =>
    have hn : headers.isEmpty = true := by
      cases hh : headers.isEmpty with
      | true => rfl
      | false => simp [opens?, hh] at hc
    have hf : headers.fields = [] := List.isEmpty_iff.mp hn
    exact ⟨congrArg Prod.snd (onMetadata_empty hs hn), by simp [fieldsTaken, hf], rfl⟩
  | headersEnd =>
    have he : s.onHeadersEnd = s.refuse .headersEndBeforeRequestLine := by
      simp [onHeadersEnd, unlessRejected, hs.accepted, hs.initial]
    exact ⟨congrArg Prod.snd he, rfl, rfl⟩
  | body data last =>
    have he : s.onBody data last = s.refuse .headersEndBeforeRequestLine := by
      simp [onBody, onHeadersEnd, unlessRejected, hs.accepted, hs.initial, refuse]
    exact ⟨congrArg Prod.snd he, rfl, chunksTaken_error (congrArg Prod.fst he)⟩
  | streamEnd =>
    have he : s.onEnd = s.refuse .endBeforeRequestLine := by
      simp [onEnd, unlessRejected, hs.accepted, hs.initial]
    exact ⟨congrArg Prod.snd he, rfl, rfl⟩

/-- Before the first metadata nothing is taken and nothing is told. -/
theorem unbegun_call (hs : Unbegun translator s) {c : StreamCall} (hc : opens? c = none) :
    Unbegun translator (s.call c).2 ∧ s.fieldsTaken c = [] ∧ s.chunksTaken c = [] := by
  cases c with
  | receive frame =>
    obtain ⟨hr, hf, hd⟩ := unbegun_receive hs hc
    exact ⟨by rwa [call, hr], hf, hd⟩
  | dispatch =>
    simp only [call, dispatch_settled s hs.settled]
    exact ⟨hs, rfl, rfl⟩
  | release n =>
    simp only [call, release]
    split
    · exact ⟨⟨hs.settled, hs.accepted, hs.initial, hs.untold, hs.translates⟩, rfl, rfl⟩
    · exact ⟨hs, rfl, rfl⟩
  | discard => exact ⟨⟨hs.settled, hs.accepted, hs.initial, hs.untold, hs.translates⟩, rfl, rfl⟩
  | pull => exact ⟨⟨hs.settled, hs.accepted, hs.initial, hs.untold, hs.translates⟩, rfl, rfl⟩
  | terminate => exact ⟨⟨hs.settled, hs.accepted, hs.initial, hs.untold, hs.translates⟩, rfl, rfl⟩

end Opening

section Runs

variable {translator : Translator} {s : Stream ε} {first : Headers} {line : RequestLine}

/-- An engine was told this line, these fields and these chunks. -/
structure Told (line : RequestLine) (fields : List Field) (chunks : List Octets) (s : Stream ε) : Prop where
  line : s.callbacks.filterMap Callback.line? = [line]
  fields : s.callbacks.filterMap Callback.field? = fields
  chunks : s.buffer.discarding = false → s.callbacks.filterMap Callback.chunk? = chunks

omit [Engine ε] in
theorem Told.tells {fields more : List Field} {chunks rest : List Octets} {t : Stream ε}
    (h : Told line fields chunks s) (k : Tells more rest s t) : Told line (fields ++ more) (chunks ++ rest) t where
  line := k.line.trans h.line
  fields := by rw [k.fields, h.fields]
  chunks hd := by
    have hs : s.buffer.discarding = false := by
      apply Bool.eq_false_iff.mpr
      intro hs
      exact absurd (hd.symm.trans (k.given hs)) (by decide)
    rw [k.chunks hd, h.chunks hs]

theorem told_started (hs : Unbegun translator s) (line : RequestLine) : Told line [] [] (s.started line) := by
  have hc : (s.started line).callbacks = [.start line.method line.target line.version] := by
    simp [started, hs.untold]
  exact ⟨by rw [hc]; rfl, by rw [hc]; rfl, fun _ => by rw [hc]; rfl⟩

variable (hε : Engine.Abides ε)
include hε

theorem told_first (hs : Unbegun translator s) (hne : first.isEmpty = false)
    (hl : RequestLine.ofHeaders first = .ok line)
    (hok : ∀ cause, (s.onMetadata first).1 ≠ .error (.http cause)) :
    Told line ((s.fieldsTaken (.receive (.metadata first))).filterMap (headerField translator)) []
      (s.onMetadata first).2 := by
  have hr := first_told hs hne hl hok
  have htaken : (s.onMetadata first).1 = .ok () :=
    Outcome.ok_of_engine_only (hr ▸ invokeAll_engine_only _ _) hok
  have hf : s.fieldsTaken (.receive (.metadata first)) = first.fields := by
    simp [fieldsTaken, takes, receive, htaken]
  rw [hf]
  rw [hr] at htaken ⊢
  exact (told_started hs line).tells (tells_invokeAll hε htaken)

/-- What an engine is told by a script, from its start on. -/
theorem told_replay (hs : Unbegun translator s) {calls : List StreamCall} (hok : Unfailing calls s)
    (hfirst : firstMetadata calls = some first) (hl : RequestLine.ofHeaders first = .ok line) :
    Told line ((s.record fieldsTaken calls).filterMap (headerField translator)) (s.record chunksTaken calls)
      (s.replay calls) := by
  induction calls generalizing s with
  | nil => cases hfirst
  | cons c calls ih =>
    obtain ⟨hc, hrest⟩ := hok
    cases ho : opens? c with
    | none =>
      obtain ⟨ht, hf, hd⟩ := unbegun_call hs ho
      rw [firstMetadata, List.findSome?_cons_of_isNone (by simp [ho])] at hfirst
      rw [record, record, hf, hd]
      exact ih ht hrest hfirst
    | some headers =>
      have hh : headers = first := by simpa [firstMetadata, ho] using hfirst
      obtain ⟨rfl, hne⟩ := opens?_eq_some (hh ▸ ho)
      have ht := told_first hε hs hne hl (hc _ rfl)
      have hu := first_underway hs hne hl
      rw [record, record, List.filterMap_append]
      exact ht.tells (tells_replay hε hu calls hrest)

end Runs

section Splits

variable {translator : Translator} {s : Stream ε} {line : RequestLine}

/-- A header section that comes in these frames. -/
def deliveries (frames : List Headers) : List StreamCall :=
  frames.map fun headers => .receive (.metadata headers)

omit [Engine ε] in
theorem fieldCallbacks_append (fields rest : List Field) : fieldCallbacks translator (fields ++ rest) =
    fieldCallbacks translator fields ++ fieldCallbacks translator rest := by
  simp [fieldCallbacks]

theorem open_replay (hs : Open translator s) {frames : List Headers} (hok : Unfailing (deliveries frames) s) :
    s.replay (deliveries frames) =
      (invokeAll (fieldCallbacks translator (frames.flatMap Headers.fields)) s).2 := by
  induction frames generalizing s with
  | nil => rfl
  | cons headers frames ih =>
    obtain ⟨hc, hrest⟩ := hok
    have hc : ∀ cause, (s.onMetadata headers).1 ≠ .error (.http cause) := hc _ rfl
    have hr := open_told hs headers
    have htaken := Outcome.ok_of_engine_only (invokeAll_engine_only _ _) (hr ▸ hc)
    have ht : Open translator (s.onMetadata headers).2 := by
      rw [hr]
      exact open_invokeAll hs _
    have hreplay : s.replay (deliveries (headers :: frames)) = (s.onMetadata headers).2.replay (deliveries frames) := rfl
    rw [hreplay, ih ht hrest, hr, List.flatMap_cons, fieldCallbacks_append, invokeAll_after htaken]

/-- However a header section is cut into frames, the stream comes to be the same. -/
theorem split_replay (hs : Unbegun translator s) {frames : List Headers} {first : Headers}
    (hok : Unfailing (deliveries frames) s) (hfirst : firstMetadata (deliveries frames) = some first)
    (hl : RequestLine.ofHeaders first = .ok line) :
    s.replay (deliveries frames) =
      (invokeAll (fieldCallbacks translator (frames.flatMap Headers.fields)) (s.started line)).2 := by
  induction frames with
  | nil => cases hfirst
  | cons headers frames ih =>
    obtain ⟨hc, hrest⟩ := hok
    have hc : ∀ cause, (s.onMetadata headers).1 ≠ .error (.http cause) := hc _ rfl
    have hreplay : s.replay (deliveries (headers :: frames)) = (s.onMetadata headers).2.replay (deliveries frames) := rfl
    cases hn : headers.isEmpty with
    | true =>
      have he := onMetadata_empty hs hn
      have hf : headers.fields = [] := List.isEmpty_iff.mp hn
      rw [show (s.call (.receive (.metadata headers))).2 = s from congrArg Prod.snd he] at hrest
      rw [hreplay, he, List.flatMap_cons, hf, List.nil_append]
      apply ih hrest
      rwa [deliveries, List.map_cons, firstMetadata, List.findSome?_cons_of_isNone (by simp [opens?, hn])] at hfirst
    | false =>
      have hh : headers = first := by simpa [firstMetadata, deliveries, opens?, hn] using hfirst
      subst hh
      have hr := first_told hs hn hl hc
      have htaken := Outcome.ok_of_engine_only (invokeAll_engine_only _ _) (hr ▸ hc)
      have ht : Open translator (s.onMetadata headers).2 := by
        rw [hr]
        exact open_invokeAll (open_started hs line) _
      rw [hreplay, open_replay ht hrest, hr, List.flatMap_cons, fieldCallbacks_append, invokeAll_after htaken]

end Splits

section Translation

variable {line other : RequestLine}

/-- The first metadata that is not empty has this request line. -/
def Opens (calls : List StreamCall) (line : RequestLine) : Prop :=
  ∃ first, firstMetadata calls = some first ∧ first.get? "method" = some line.method ∧
    first.get? "url" = some line.target ∧ first.get? "version" = some line.version

theorem ofHeaders_complete {headers : Headers} (hm : headers.get? "method" = some line.method)
    (ht : headers.get? "url" = some line.target) (hv : headers.get? "version" = some line.version) :
    RequestLine.ofHeaders headers = .ok line := by
  simp only [RequestLine.ofHeaders, RequestLine.field, hm, ht, hv]
  rfl

/-- What the first metadata has, the header section has first. -/
theorem firstMetadata_get? {frames : List Headers} {first : Headers}
    (hfirst : firstMetadata (deliveries frames) = some first) {name value : String}
    (h : first.get? name = some value) : Headers.get? ⟨frames.flatMap Headers.fields⟩ name = some value := by
  induction frames with
  | nil => cases hfirst
  | cons headers frames ih =>
    rw [List.flatMap_cons, Headers.get?_append]
    cases hn : headers.isEmpty with
    | true =>
      have hf : headers.fields = [] := List.isEmpty_iff.mp hn
      rw [deliveries, List.map_cons, firstMetadata, List.findSome?_cons_of_isNone (by simp [opens?, hn])] at hfirst
      rw [hf]
      exact ih hfirst
    | false =>
      have hh : headers = first := by simpa [firstMetadata, deliveries, opens?, hn] using hfirst
      have hv : Headers.get? ⟨headers.fields⟩ name = some value := hh ▸ h
      rw [hv, Option.some_or]

/-- Two cuts of one header section have the same request line. -/
theorem opens_unique {frames others : List Headers} (h : frames.flatMap Headers.fields = others.flatMap Headers.fields)
    (hl : Opens (deliveries frames) line) (ho : Opens (deliveries others) other) : line = other := by
  obtain ⟨first, hfirst, hm, ht, hv⟩ := hl
  obtain ⟨second, hsecond, hm', ht', hv'⟩ := ho
  have hsame : ∀ {name value value' : String}, first.get? name = some value → second.get? name = some value' →
      value = value' := by
    intro name value value' hf hs
    have hf := firstMetadata_get? hfirst hf
    rw [h, firstMetadata_get? hsecond hs] at hf
    exact (Option.some.inj hf).symm
  cases line
  cases other
  rw [RequestLine.mk.injEq]
  exact ⟨hsame hm hm', hsame ht ht', hsame hv hv'⟩

/-- With an engine that never fails no callback fails. -/
theorem unbegun_unfailing {Q : ε → Prop} (hQ : Engine.NeverFails Q) {s : Stream ε} {translator : Translator}
    (hs : Unbegun translator s) (he : Q s.engine) {calls : List StreamCall}
    (hl : Opens calls line) : Unfailing calls s := by
  induction calls generalizing s with
  | nil => trivial
  | cons c calls ih =>
    obtain ⟨first, hfirst, hm, ht, hv⟩ := hl
    have hline := ofHeaders_complete hm ht hv
    have hc : ∀ frame, c = .receive frame → Calm Q (s.receive frame) := by
      rintro frame rfl
      apply calm_receive hQ he
      rintro _ headers rfl hne
      have hh : headers = first := by simpa [firstMetadata, opens?, hne] using hfirst
      exact ⟨line, hh ▸ hline⟩
    have hcalm := calm_call he hs.settled hc
    apply And.intro fun frame h => (hc frame h).unfailing
    cases ho : opens? c with
    | none =>
      rw [firstMetadata, List.findSome?_cons_of_isNone (by simp [ho])] at hfirst
      exact ih (unbegun_call hs ho).1 hcalm ⟨first, hfirst, hm, ht, hv⟩
    | some headers =>
      have hh : headers = first := by simpa [firstMetadata, ho] using hfirst
      obtain ⟨rfl, hne⟩ := opens?_eq_some (hh ▸ ho)
      have hu := first_underway hs hne hline
      exact underway_unfailing hQ hu hcalm calls

/-- Where no callback fails, an engine is told the request line of the first metadata, the header fields that
all metadata taken translates to, and, while the body is not given up, the octets of the body frames taken,
frame by frame. Two cuts of one header section into frames make no difference to what it is told. -/
theorem told_as_translated (hε : Engine.Abides ε) (settings : Settings) (link : Link) (engine : ε) :
    let start := new settings link engine
    (∀ calls line, Unfailing calls start → Opens calls line →
      let s := start.replay calls
      s.callbacks.filterMap Callback.line? = [line] ∧
      s.callbacks.filterMap Callback.field? =
        (start.record fieldsTaken calls).filterMap (headerField settings.toTranslator) ∧
      (s.buffer.discarding = false → s.callbacks.filterMap Callback.chunk? = start.record chunksTaken calls)) ∧
    ∀ frames others line other, frames.flatMap Headers.fields = others.flatMap Headers.fields →
      Unfailing (deliveries frames) start → Opens (deliveries frames) line →
      Unfailing (deliveries others) start → Opens (deliveries others) other →
      ∀ calls, start.replay (deliveries frames ++ calls) = start.replay (deliveries others ++ calls) := by
  intro start
  have hs : Unbegun settings.toTranslator start := ⟨rfl, rfl, rfl, rfl, rfl⟩
  constructor
  · rintro calls line hok ⟨first, hfirst, hm, ht, hv⟩ s
    have h := told_replay hε hs hok hfirst (ofHeaders_complete hm ht hv)
    exact ⟨h.line, h.fields, h.chunks⟩
  · intro frames others line other h hok hl hok' ho calls
    have hline := opens_unique h hl ho
    obtain ⟨first, hfirst, hm, ht, hv⟩ := hl
    obtain ⟨second, hsecond, hm', ht', hv'⟩ := ho
    rw [replay_append, replay_append, split_replay hs hok hfirst (ofHeaders_complete hm ht hv),
      split_replay hs hok' hsecond (ofHeaders_complete hm' ht' hv'), h, hline]

/-- One header section in two cuts, the second one after an empty frame, and a body. -/
theorem cuts_told_alike :
    let first := Headers.ofPairs [("Method", "POST"), ("url", "/a"), ("VERSION", "HTTP/1.1"), ("X-A", "1")]
    let second := Headers.ofPairs [("Method", "POST"), ("url", "/a"), ("VERSION", "HTTP/1.1")]
    let frames : List Headers := [first, .ofPairs [("Host", "c"), ("X-B", "2")]]
    let others : List Headers := [.empty, second, .ofPairs [("X-A", "1"), ("Host", "c")], .ofPairs [("X-B", "2")]]
    let line : RequestLine := ⟨"POST", "/a", "HTTP/1.1"⟩
    let start : Stream Recorder := new { synthesizeHost := false } {} {}
    let calls : List StreamCall := [.receive (.body [1, 2] false), .release 2, .receive (.body [] true)]
    let s := start.replay (deliveries frames ++ calls)
    Engine.Abides Recorder ∧ Opens (deliveries frames ++ calls) line ∧ Opens (deliveries others) line ∧
      Unfailing (deliveries frames ++ calls) start ∧ Unfailing (deliveries others) start ∧
      s.callbacks.filterMap Callback.line? = [line] ∧
      s.callbacks.filterMap Callback.field? = [⟨"X-A", "1"⟩, ⟨"X-B", "2"⟩] ∧
      s.callbacks.filterMap Callback.chunk? = [[1, 2]] ∧
      s = start.replay (deliveries others ++ calls) := by
  intro first second frames others line start calls s
  have hε : Engine.Abides Recorder := Engine.abides_of_consumes Recorder.consumes_only
  have hs : Unbegun start.translator start := ⟨rfl, rfl, rfl, rfl, rfl⟩
  have hfirst : first.get? "method" = some line.method ∧ first.get? "url" = some line.target ∧
      first.get? "version" = some line.version := by decide +kernel
  have hsecond : second.get? "method" = some line.method ∧ second.get? "url" = some line.target ∧
      second.get? "version" = some line.version := by decide +kernel
  have hopens : Opens (deliveries frames ++ calls) line := ⟨first, rfl, hfirst⟩
  have hframes : Opens (deliveries frames) line := ⟨first, rfl, hfirst⟩
  have hothers : Opens (deliveries others) line := ⟨second, rfl, hsecond⟩
  have hok := unbegun_unfailing Recorder.never_fails hs rfl hopens
  have hok' := unbegun_unfailing Recorder.never_fails hs rfl hothers
  obtain ⟨htold, hcuts⟩ := told_as_translated hε { synthesizeHost := false } {} ({} : Recorder)
  obtain ⟨hline, hfields, hchunks⟩ := htold _ line hok hopens
  have hsame := hcuts frames others line line rfl (unbegun_unfailing Recorder.never_fails hs rfl hframes)
    hframes hok' hothers calls
  have hf : (start.record fieldsTaken (deliveries frames ++ calls)).filterMap (headerField start.translator) =
      [⟨"X-A", "1"⟩, ⟨"X-B", "2"⟩] := by decide +kernel
  have hc : start.record chunksTaken (deliveries frames ++ calls) = [[1, 2]] := by decide +kernel
  have hd : s.buffer.discarding = false := by decide +kernel
  exact ⟨hε, hopens, hothers, hok, hok', hline, hfields.trans hf, (hchunks hd).trans hc, hsame⟩

end Translation

end Stream

end FramedHttp
