import FramedHttp.Proofs.Stream.Run

/-!
# What an engine is told

Where no callback fails, an engine is told the request line of the first metadata, the header fields that
all of the metadata translates to, and the octets of the body frames, one chunk for each frame that brings
any. How the header section was cut into frames does not show.
-/

set_option autoImplicit false

namespace FramedHttp

open Content Content.Buffer

namespace Callback

def line? : Callback → Option RequestLine
  | .start method target version => some ⟨method, target, version⟩
  | _ => none

def field? : Callback → Option Field
  | .field name value => some ⟨name, value⟩
  | _ => none

def chunk? : Callback → Option Octets
  | .chunk octets => some octets
  | _ => none

end Callback

/-- The header field that a metadata field stands for: the target stands for the host that it names, and what
concerns the request line or a single connection stands for none. -/
def headerField (translator : Translator) (f : Field) : Option Field :=
  if ["method", "version", "connection", "keep-alive", "host"].any f.isNamed then none
  else if f.isNamed "url" then
    match translator.synthesizeHost, translator.host? f.value with
    | true, some host => some ⟨"host", host⟩
    | _, _ => none
  else some f

theorem translate_eq (translator : Translator) (h : Headers) :
    translator.translate h = h.fields.filterMap (headerField translator) := by
  have hf : translator.translateField = headerField translator := by
    funext f
    unfold Translator.translateField headerField Disposition.ofName
    by_cases hd : Disposition.dropped.any (sameName f.name) = true
    · have hd' : ["method", "version", "connection", "keep-alive", "host"].any f.isNamed = true := hd
      rw [if_pos hd, if_pos hd']
    · have hd' : ¬ ["method", "version", "connection", "keep-alive", "host"].any f.isNamed = true := hd
      rw [if_neg hd, if_neg hd']
      by_cases hu : sameName f.name "url" = true
      · have hu' : f.isNamed "url" = true := hu
        rw [if_pos hu, if_pos hu']
        cases translator.synthesizeHost <;> cases translator.host? f.value <;> rfl
      · have hu' : ¬ f.isNamed "url" = true := hu
        rw [if_neg hu, if_neg hu']
  rw [Translator.translate, hf]

/-- The callbacks for metadata. -/
def fieldCallbacks (translator : Translator) (fields : List Field) : List Callback :=
  (fields.filterMap (headerField translator)).map fun f => .field f.name f.value

/-- What is given up stays so, whatever the engine does. -/
def Engine.Abides (ε : Type) [Engine ε] : Prop :=
  ∀ (cb : Callback) (occasion : Occasion) (s : Seat ε), s.buffer.discarding = true →
    (Engine.call cb occasion s).2.buffer.discarding = true

namespace Stream

variable {ε : Type}

/-- What an engine was told from one state to another: these fields and these chunks, but no start. -/
structure Tells (fields : List Field) (chunks : List Octets) (s t : Stream ε) : Prop where
  line : t.callbacks.filterMap Callback.line? = s.callbacks.filterMap Callback.line?
  fields : t.callbacks.filterMap Callback.field? = s.callbacks.filterMap Callback.field? ++ fields
  given : s.buffer.discarding = true → t.buffer.discarding = true
  chunks : t.buffer.discarding = false →
    t.callbacks.filterMap Callback.chunk? = s.callbacks.filterMap Callback.chunk? ++ chunks

section Tells

variable {s t u : Stream ε} {fields more : List Field} {chunks rest : List Octets}

theorem Tells.same (hc : t.callbacks = s.callbacks) (hd : s.buffer.discarding = true → t.buffer.discarding = true) :
    Tells [] [] s t where
  line := by rw [hc]
  fields := by rw [hc, List.append_nil]
  given := hd
  chunks _ := by rw [hc, List.append_nil]

theorem Tells.trans (h : Tells fields chunks s t) (k : Tells more rest t u) :
    Tells (fields ++ more) (chunks ++ rest) s u where
  line := k.line.trans h.line
  fields := by rw [k.fields, h.fields, List.append_assoc]
  given hd := k.given (h.given hd)
  chunks hd := by
    have ht : t.buffer.discarding = false := by
      apply Bool.eq_false_iff.mpr
      intro ht
      exact absurd (hd.symm.trans (k.given ht)) (by decide)
    rw [k.chunks hd, h.chunks ht, List.append_assoc]

/-- After nothing was told. -/
theorem Tells.after (h : Tells [] [] s t) (k : Tells more rest t u) : Tells more rest s u :=
  h.trans k

end Tells

variable [Engine ε]

/-- No callback fails. -/
def Unfailing : List StreamCall → Stream ε → Prop
  | [], _ => True
  | c :: calls, s =>
    (∀ frame, c = .receive frame → ∀ cause, (s.receive frame).1 ≠ .error (.http cause)) ∧
      Unfailing calls (s.call c).2

def takes (frame : InFrame) (s : Stream ε) : Bool :=
  match (s.receive frame).1 with
  | .ok _ => true
  | .error _ => false

/-- The metadata fields of a frame that is taken. -/
def fieldsTaken (c : StreamCall) (s : Stream ε) : List Field :=
  match c with
  | .receive (.metadata headers) => if s.takes (.metadata headers) then headers.fields else []
  | _ => []

/-- The octets of a body frame that is taken, if there are any. -/
def chunksTaken (c : StreamCall) (s : Stream ε) : List Octets :=
  match c with
  | .receive (.body data last) => if s.takes (.body data last) && !data.isEmpty then [data] else []
  | _ => []

theorem invokeAll_append (cbs rest : List Callback) (s : Stream ε) :
    invokeAll (cbs ++ rest) s = (invokeAll cbs s).andThen (invokeAll rest) := by
  induction cbs generalizing s with
  | nil => rfl
  | cons cb cbs ih =>
    simp only [List.cons_append, invokeAll, Outcome.andThen_assoc]
    congr 1
    funext t
    exact ih t

/-- Callbacks after callbacks that the engine took. -/
theorem invokeAll_after {cbs : List Callback} {s : Stream ε} (h : (invokeAll cbs s).1 = .ok ())
    (rest : List Callback) : (invokeAll (cbs ++ rest) s).2 = (invokeAll rest (invokeAll cbs s).2).2 := by
  rw [invokeAll_append]
  rcases hi : invokeAll cbs s with ⟨_ | _, t⟩
  · rw [hi] at h
    cases h
  · rfl

theorem forwardFields_told {s : Stream ε} {headers : Headers} (h : s.metadata = some headers) :
    s.forwardFields = invokeAll (fieldCallbacks s.translator headers.fields) { s with metadata := none } := by
  rw [fieldCallbacks, ← translate_eq, forwardFields, h]

/-- Past the start of the request nothing is refused as malformed any more. -/
structure Underway (translator : Translator) (s : Stream ε) : Prop where
  settled : s.pending = false
  accepted : s.rejected = false
  begun : s.state ≠ .initial
  translates : s.translator = translator

omit [Engine ε] in
theorem underway_stages {translator : Translator} {s : Stream ε} (h : Underway translator s) :
    (s.state = .requestLine ∨ s.state = .headerFields) ∨ s.state.isReading = true ∨ s.state = .final := by
  cases hs : s.state with
  | initial => exact absurd hs h.begun
  | requestLine => exact .inl (.inl rfl)
  | headerFields => exact .inl (.inr rfl)
  | headersComplete => exact .inr (.inl rfl)
  | body => exact .inr (.inl rfl)
  | final => exact .inr (.inr rfl)

theorem invoke_underway {translator : Translator} {s : Stream ε} (h : Underway translator s) (cb : Callback) :
    Underway translator (s.invoke cb).2 where
  settled := by simpa using h.settled
  accepted := by simpa using h.accepted
  begun := by simpa using h.begun
  translates := by simpa [invoke] using h.translates

theorem underway_kept (translator : Translator) : Kept (Underway (ε := ε) translator) where
  settled h := h.settled
  move {s t} h hm := by
    cases hm with
    | start hr hs => exact absurd hs h.begun
    | reject hr hs => exact absurd hs h.begun
    | fields headers =>
      apply forwardFields_keeps (P := Underway translator)
      · intro f u hu
        exact invoke_underway hu _
      · exact ⟨rfl, h.accepted, nofun, h.translates⟩
    | headersEnd =>
      have hb : Underway translator (s.reach .headersComplete) := ⟨rfl, h.accepted, nofun, h.translates⟩
      exact invoke_underway hb _
    | @body data last b =>
      have hb : Underway translator ((s.withBuffer b).reach .body) := ⟨rfl, h.accepted, nofun, h.translates⟩
      unfold announceChunk
      split
      · exact hb
      · exact invoke_underway hb _
    | finish =>
      have hb : Underway translator ((s.withBuffer s.buffer.markComplete).reach .final) :=
        ⟨rfl, h.accepted, nofun, h.translates⟩
      exact invoke_underway hb _
  release h _ _ _ := ⟨h.settled, h.accepted, h.begun, h.translates⟩
  discard h := ⟨h.settled, h.accepted, h.begun, h.translates⟩
  pull h := ⟨h.settled, h.accepted, h.begun, h.translates⟩
  terminate h := ⟨h.settled, h.accepted, h.begun, h.translates⟩

section Tells

variable {s : Stream ε}

variable (hε : Engine.Abides ε)
include hε

theorem invoke_given (cb : Callback) (h : s.buffer.discarding = true) :
    (s.invoke cb).2.buffer.discarding = true := by
  have hg := hε cb { state := s.state, earlier := s.callbacks } s.seat h
  simpa [invoke, buffer] using hg

/-- A callback. -/
theorem tells_invoke (cb : Callback) (h : cb.line? = none) (s : Stream ε) :
    Tells cb.field?.toList cb.chunk?.toList s (s.invoke cb).2 where
  line := by simp [h]
  fields := by cases cb <;> simp [Callback.field?]
  given := invoke_given hε cb
  chunks _ := by cases cb <;> simp [Callback.chunk?]

theorem tells_invokeAll {fields : List Field} {s : Stream ε}
    (h : (invokeAll (fields.map fun f => .field f.name f.value) s).1 = .ok ()) :
    Tells fields [] s (invokeAll (fields.map fun f => .field f.name f.value) s).2 := by
  induction fields generalizing s with
  | nil => exact .same rfl id
  | cons f fields ih =>
    have hf := tells_invoke hε (.field f.name f.value) rfl s
    simp only [List.map_cons, invokeAll] at h ⊢
    rcases hr : s.invoke (.field f.name f.value) with ⟨_ | _, t⟩
    · rw [hr] at h
      cases h
    · rw [hr] at h hf
      exact hf.trans (ih (s := t) h)

/-- The fields of metadata that is taken. -/
theorem tells_fields {headers : Headers} {s : Stream ε} (hm : s.metadata = some headers)
    (hok : ∀ cause, s.forwardFields.1 ≠ .error (.http cause)) :
    s.forwardFields.1 = .ok () ∧
      Tells (headers.fields.filterMap (headerField s.translator)) [] s s.forwardFields.2 := by
  have hr := Outcome.ok_of_engine_only (forwardFields_engine_only _) hok
  rw [forwardFields_told hm] at hr ⊢
  have hs : Tells [] [] s { s with metadata := none } := .same rfl id
  exact ⟨hr, hs.after (tells_invokeAll hε hr)⟩

variable {translator : Translator}

theorem tells_metadata (hs : Underway translator s) (headers : Headers)
    (hok : ∀ cause, (s.onMetadata headers).1 ≠ .error (.http cause)) :
    Tells ((s.fieldsTaken (.receive (.metadata headers))).filterMap (headerField translator)) [] s
      (s.onMetadata headers).2 := by
  have hopen : s.onMetadata headers = ({ s with metadata := some headers }.reach .headerFields).forwardFields →
      Tells ((s.fieldsTaken (.receive (.metadata headers))).filterMap (headerField translator)) [] s
        (s.onMetadata headers).2 := by
    intro he
    rw [he] at hok ⊢
    have hm : ({ s with metadata := some headers }.reach .headerFields).metadata = some headers := rfl
    have hs' : Tells [] [] s ({ s with metadata := some headers }.reach .headerFields) := .same rfl id
    obtain ⟨hr, ht⟩ := tells_fields hε hm hok
    have hf : s.fieldsTaken (.receive (.metadata headers)) = headers.fields := by
      have hr : (s.onMetadata headers).1 = .ok () := (congrArg Prod.fst he).trans hr
      simp [fieldsTaken, takes, receive, hr]
    rw [hf, ← hs.translates]
    exact hs'.after ht
  have hpast : s.onMetadata headers = s.refuse .metadataAfterHeaders →
      Tells ((s.fieldsTaken (.receive (.metadata headers))).filterMap (headerField translator)) [] s
        (s.onMetadata headers).2 := by
    intro he
    have hf : s.fieldsTaken (.receive (.metadata headers)) = [] := by
      simp [fieldsTaken, takes, receive, he, refuse]
    rw [hf, he]
    exact .same rfl id
  rcases underway_stages hs with hi | hi
  · exact hopen (onMetadata_open hs.accepted hi headers)
  · apply hpast (onMetadata_past hs.accepted _ headers)
    rcases hi with hi | hi
    · cases hc : s.state <;> simp [hc, Lifecycle.isReading] at hi <;> rfl
    · simp [hi, Lifecycle.canBlock]

theorem tells_headersEnd (hs : Underway translator s) : Tells [] [] s s.onHeadersEnd.2 := by
  rcases underway_stages hs with hi | hi | hi
  · rw [onHeadersEnd_open hs.accepted hi]
    have hr : Tells [] [] s (s.reach .headersComplete) := .same rfl id
    exact hr.after (tells_invoke hε .headersComplete rfl _)
  · rw [onHeadersEnd_again hi]
    exact .same rfl id
  · rw [onHeadersEnd_past (.inr (.inr hi))]
    exact .same rfl id

theorem tells_end (hs : Underway translator s) : Tells [] [] s s.onEnd.2 := by
  apply unlessRejected_keeps (P := Tells [] [] s) (.same rfl id)
  split
  · exact .same rfl id
  · exact .same rfl id
  · exact .same rfl id
  · apply Outcome.andThen_keeps (P := Tells [] [] s) (tells_headersEnd hε hs)
    intro t ht
    apply unlessRejected_keeps (P := Tells [] [] s) ht
    rw [takeEnd, run_enter (by decide)]
    have hr : Tells [] [] t ((t.withBuffer t.buffer.markComplete).reach .final) := .same rfl id
    exact ht.after (hr.after (tells_invoke hε (.complete 0) rfl _))

omit hε in
theorem chunksTaken_error {e : StreamError} {data : Octets} {last : Bool} (h : (s.onBody data last).1 = .error e) :
    s.chunksTaken (.receive (.body data last)) = [] := by
  simp [chunksTaken, takes, receive, h]

omit hε in
theorem chunksTaken_ok {data : Octets} {last : Bool} (h : (s.onBody data last).1 = .ok ()) :
    s.chunksTaken (.receive (.body data last)) = if data = [] then [] else [data] := by
  by_cases hd : data = [] <;> simp [chunksTaken, takes, receive, h, hd]

/-- A body frame is told as one chunk, unless it brings nothing. -/
theorem tells_body_reading (hr : s.rejected = false) (hread : s.state.isReading = true) (data : Octets)
    (last : Bool) (hok : ∀ cause, (s.onBody data last).1 ≠ .error (.http cause)) :
    Tells [] (s.chunksTaken (.receive (.body data last))) s (s.onBody data last).2 := by
  cases hf : s.buffer.fill data last with
  | error =>
    have he : s.onBody data last = s.refuse .bodyFrameOnUnread := by
      simp [onBody, unlessRejected, hr, onHeadersEnd_again hread, takeBody, hread, hf]
    rw [chunksTaken_error (congrArg Prod.fst he), he]
    exact .same rfl id
  | ok b =>
    obtain ⟨_, hb⟩ := fill_ok_iff.mp hf
    have he := onBody_reading hr hread hf
    have hu : Tells [] [] s ((s.withBuffer b).reach .body) := .same rfl fun hd => by rw [hb]; exact hd
    have htaken := Outcome.ok_of_engine_only (he ▸ announceChunk_engine_only _) hok
    rw [chunksTaken_ok htaken, he]
    by_cases hn : b.fragment = []
    · have hc : ((s.withBuffer b).reach .body).announceChunk = (.ok (), (s.withBuffer b).reach .body) :=
        if_pos (isDrained_iff.mpr hn)
      rw [hc]
      -- Nothing is told, so either there is nothing or nobody reads it.
      refine ⟨hu.line, hu.fields, hu.given, fun hd => ?_⟩
      have hg : s.buffer.discarding = false := by
        have hd : b.discarding = false := hd
        rwa [hb] at hd
      have hdata : data = [] := by
        rw [hb] at hn
        simpa [hg] using hn
      rw [if_pos hdata]
      exact hu.chunks hd
    · have hc : ((s.withBuffer b).reach .body).announceChunk =
          ((s.withBuffer b).reach .body).invoke (.chunk b.fragment) :=
        if_neg fun h => hn (isDrained_iff.mp h)
      have hdata : b.fragment = data := by
        rw [hb] at hn ⊢
        by_cases hg : s.buffer.discarding = true
        · simp [hg] at hn
        · simp [hg]
      rw [hc, hdata, if_neg (hdata ▸ hn)]
      exact hu.after (tells_invoke hε (.chunk data) rfl _)

theorem tells_body (hs : Underway translator s) (data : Octets) (last : Bool)
    (hok : ∀ cause, (s.onBody data last).1 ≠ .error (.http cause)) :
    Tells [] (s.chunksTaken (.receive (.body data last))) s (s.onBody data last).2 := by
  rcases underway_stages hs with hi | hi | hi
  · have hopen := onHeadersEnd_open hs.accepted hi
    have hend := tells_headersEnd hε hs
    rcases he : s.onHeadersEnd with ⟨e | _, t⟩
    · have hb : s.onBody data last = (.error e, t) := by
        simp [onBody, unlessRejected, hs.accepted, he]
      rw [he] at hend
      rw [chunksTaken_error (congrArg Prod.fst hb), hb]
      exact hend
    · have ht : t = ((s.reach .headersComplete).invoke .headersComplete).2 :=
        congrArg Prod.snd (he.symm.trans hopen)
      have hread : t.state.isReading = true := by simp [ht, Lifecycle.isReading]
      have hr : t.rejected = false := by simpa [ht] using hs.accepted
      have hb := onBody_open hs.accepted he hread data last
      have hc : s.chunksTaken (.receive (.body data last)) = t.chunksTaken (.receive (.body data last)) := by
        have hf := congrArg Prod.fst hb
        cases ha : (t.onBody data last).1 with
        | error e => rw [chunksTaken_error ha, chunksTaken_error (hf.trans ha)]
        | ok => rw [chunksTaken_ok ha, chunksTaken_ok (hf.trans ha)]
      rw [he] at hend
      rw [hb] at hok
      rw [hb, hc]
      exact hend.after (tells_body_reading hε hr hread data last hok)
  · exact tells_body_reading hε hs.accepted hi data last hok
  · have hb : s.onBody data last = s.refuse .bodyFrame := by
      simp [onBody, unlessRejected, hs.accepted, hi, onHeadersEnd_past, takeBody, Lifecycle.isReading]
    rw [chunksTaken_error (congrArg Prod.fst hb), hb]
    exact .same rfl id

/-- What an engine is told by one call. -/
theorem tells_call (hs : Underway translator s) (c : StreamCall)
    (hok : ∀ frame, c = .receive frame → ∀ cause, (s.receive frame).1 ≠ .error (.http cause)) :
    Tells ((s.fieldsTaken c).filterMap (headerField translator)) (s.chunksTaken c) s (s.call c).2 := by
  cases c with
  | receive frame =>
    cases frame with
    | metadata headers => exact tells_metadata hε hs headers (hok _ rfl)
    | headersEnd => exact tells_headersEnd hε hs
    | body data last => exact tells_body hε hs data last (hok _ rfl)
    | streamEnd => exact tells_end hε hs
  | dispatch =>
    simp only [call, dispatch_settled s hs.settled]
    exact .same rfl id
  | release n =>
    simp only [call, release]
    split
    · next b hb =>
      obtain ⟨_, rfl⟩ := release?_eq_some_iff.mp hb
      exact .same rfl id
    · exact .same rfl id
  | discard => exact .same rfl fun _ => rfl
  | pull => exact .same rfl id
  | terminate => exact .same rfl id

/-- What an engine is told by a script. -/
theorem tells_replay (hs : Underway translator s) (calls : List StreamCall) (hok : Unfailing calls s) :
    Tells ((s.record fieldsTaken calls).filterMap (headerField translator)) (s.record chunksTaken calls) s
      (s.replay calls) := by
  induction calls generalizing s with
  | nil => exact .same rfl id
  | cons c calls ih =>
    have hc := tells_call hε hs c hok.1
    have hrest := ih ((underway_kept translator).call hs c) hok.2
    rw [record, List.filterMap_append]
    exact hc.trans hrest

end Tells

end Stream

end FramedHttp
