import FramedHttp.Proofs.Wire.Layout
import FramedHttp.Proofs.Wire.MessageReader

/-!
# Responses on a byte stream, read back

The same body can leave in one piece or in chunks of any size. Whichever it is, the head on the wire
announces it, and a reader gets the head, the accepted octets and nothing more.
-/

set_option autoImplicit false

namespace FramedHttp

open Framing Octets

namespace Framing

variable {head : ResponseHead}

theorem choose_given (hc : head.headers.values contentLength ≠ []) (body : Octets) (last : Bool) :
    choose head body last = (.identity, head.headers) := by
  simp [choose, Headers.contains_eq_true hc]

theorem choose_counted (hc : head.headers.values contentLength = [])
    (hs : head.status.isBodiless = false) (body : Octets) :
    choose head body true = (.identity, head.headers.append contentLength (toString body.length)) := by
  simp [choose, Headers.contains_eq_false hc, hs, Headers.set_absent hc]

theorem choose_chunked (hc : head.headers.values contentLength = [])
    (ht : head.headers.values transferEncoding = []) (hs : head.status.isBodiless = false) :
    choose head [] false = (.chunked, head.headers.append transferEncoding "chunked") := by
  simp [choose, Headers.contains_eq_false hc, hs, Headers.set_absent ht]

end Framing

namespace Received

theorem length_read (n : Nat) : number? 10 (ofText (toString n)) = some n := by
  rw [Nat.toString_eq_ofList_toDigits, ofText, String.toList_ofList]
  exact number_read 10 (by decide) (by decide) n

/-- Exactly the announced octets are the body, whatever follows them. -/
theorem body_counted {headers : Headers} {body : Octets} (ht : headers.values transferEncoding = [])
    (hc : headers.values contentLength = [toString body.length]) (rest : Octets) :
    body? headers (body ++ rest) = some (body, rest) := by
  have hn : body.length ≤ (body ++ rest).length := by
    rw [List.length_append]
    omega
  simp only [body?, ht, hc, length_read, hn, if_true, List.take_left, List.drop_left]

theorem body_chunked {headers : Headers} (ht : headers.values transferEncoding = ["chunked"])
    (hc : headers.values contentLength = []) (pieces : List Octets) (rest : Octets) :
    body? headers (pieces.flatMap Chunk.encode ++ Chunk.terminator ++ rest) =
      some (pieces.flatten, rest) := by
  simp only [body?, ht, hc, Chunk.read_pieces]

end Received

/-- A head whose fields a reader gets back, and whose body is not announced or is announced by its
length. -/
structure ResponseHead.Readable (head : ResponseHead) (body : Octets) : Prop where
  fields : ∀ f ∈ head.headers.fields, f.Plain
  reason : head.PlainReason
  bodied : head.status.isBodiless = false
  uncoded : head.headers.values transferEncoding = []
  length : head.headers.values contentLength = [] ∨
    head.headers.values contentLength = [toString body.length]

/-- What is read of a response: its head with some more fields, and its body. Nothing of it is left over, and
nothing behind it is touched. -/
def ReadsAs (head : ResponseHead) (added : List Field) (body wire : Octets) : Prop :=
  ∀ rest, Received.read? (wire ++ rest) =
    some ({ version := head.version, statusLine := head.statusLine,
            headers := ⟨head.headers.fields ++ added⟩, body := body }, rest)

section Laid

variable {head : ResponseHead} {wire body : Octets}

theorem laid_done {framing : Framing} {buffer : Octets}
    (h : Laid head .completed framing wire buffer body) : framing = .done ∧ buffer = [] := by
  cases h <;> exact ⟨rfl, rfl⟩

theorem plain_length (n : Nat) : Field.Plain ⟨contentLength, toString n⟩ := by
  have hname : ':' ∉ contentLength.toList ∧ '\r' ∉ contentLength.toList ∧ '\n' ∉ contentLength.toList := by
    decide
  exact ⟨hname, not_mem_toString n rfl, not_mem_toString n rfl⟩

theorem forall_mem_append_field (h : head.Readable body) {name value : String}
    (hp : Field.Plain ⟨name, value⟩) : ∀ f ∈ (head.headers.append name value).fields, f.Plain := by
  intro f hf
  rcases List.mem_append.mp hf with hf | hf
  · exact h.fields f hf
  · rwa [List.mem_singleton.mp hf]

theorem reads_given (h : head.Readable body)
    (hc : head.headers.values contentLength = [toString body.length]) :
    ReadsAs head [] body (headOctets head head.headers ++ body) := by
  intro rest
  have hb := Received.body_counted h.uncoded hc rest
  rw [List.append_assoc, List.append_nil]
  exact Received.read_head h.reason h.fields hb

theorem reads_counted (h : head.Readable body) (hc : head.headers.values contentLength = []) :
    ReadsAs head [⟨contentLength, toString body.length⟩] body
      (headOctets head (head.headers.append contentLength (toString body.length)) ++ body) := by
  intro rest
  have hn : (head.headers.append contentLength (toString body.length)).values transferEncoding = [] := by
    rw [Headers.values_append, h.uncoded]
    rfl
  have hv : (head.headers.append contentLength (toString body.length)).values contentLength =
      [toString body.length] := by
    rw [Headers.values_append, hc]
    rfl
  rw [List.append_assoc]
  exact Received.read_head h.reason (forall_mem_append_field h (plain_length _))
    (Received.body_counted hn hv rest)

theorem reads_chunked {pieces : List Octets} (h : head.Readable pieces.flatten)
    (hc : head.headers.values contentLength = []) :
    ReadsAs head [⟨transferEncoding, "chunked"⟩] pieces.flatten
      (headOctets head (head.headers.append transferEncoding "chunked") ++
        (pieces.flatMap Chunk.encode ++ Chunk.terminator)) := by
  intro rest
  have hp : Field.Plain ⟨transferEncoding, "chunked"⟩ := ⟨by decide, by decide⟩
  have hn : (head.headers.append transferEncoding "chunked").values contentLength = [] := by
    rw [Headers.values_append, hc]
    rfl
  have hv : (head.headers.append transferEncoding "chunked").values transferEncoding = ["chunked"] := by
    rw [Headers.values_append, h.uncoded]
    rfl
  rw [List.append_assoc]
  exact Received.read_head h.reason (forall_mem_append_field h hp) (Received.body_chunked hv hn pieces rest)

/-- A completed response is read as its head, with a framing field unless the application gave the
length, and its body. -/
theorem laid_read (hl : Laid head .completed .done wire [] body) (h : head.Readable body) :
    (head.headers.values contentLength ≠ [] ∧ ReadsAs head [] body wire) ∨
    (head.headers.values contentLength = [] ∧
      (ReadsAs head [⟨contentLength, toString body.length⟩] body wire ∨
        ReadsAs head [⟨transferEncoding, "chunked"⟩] body wire)) := by
  have hidentity : ∀ pieces : List Octets, pieces.flatMap Framing.identity.piece = pieces.flatten :=
    fun _ => List.flatMap_id
  have hchunked : Framing.chunked.piece = Chunk.encode := rfl
  rcases h.length with hc | hc
  · right
    constructor
    · exact hc
    cases hl with
    | whole =>
      left
      rw [choose_counted hc h.bodied]
      simpa [piece, ending] using reads_counted h hc
    | completed pieces =>
      right
      rw [choose_chunked hc h.uncoded h.bodied]
      simpa [hchunked, ending] using reads_chunked h hc
  · have hne : head.headers.values contentLength ≠ [] := by simp [hc]
    left
    constructor
    · exact hne
    cases hl with
    | whole =>
      rw [choose_given hne]
      simpa [piece, ending] using reads_given h hc
    | completed pieces =>
      rw [choose_given hne]
      simpa [hidentity, ending] using reads_given h hc

end Laid

namespace Generator

/-- A response completed over a writer that takes everything is read back as its head at the commit, in
order and with at most one framing field added, and the accepted octets. Reading stops at the end of the
response: what is left is what follows it. -/
theorem response_read_back (w : Writer) (hw : w.Willing) (ho : w.octets = []) (capacity : Nat)
    (ops : List ResponseOp) (hops : ∀ op ∈ ops, op.isAside = false) :
    let start := Generator.new (Framing.pending, w) capacity
    let body := accepted ops start []
    let r := (run ops start).perform .complete
    let head := r.2.head
    r.1 = .ok () ∧
    (head.Readable body →
      ∃ added : List Field, added.length ≤ 1 ∧
        (∀ f ∈ added, f.name = contentLength ∨ f.name = transferEncoding) ∧
        ∀ rest, Received.read? (r.2.sink.2.octets ++ rest) =
          some ({ version := head.version, statusLine := head.statusLine,
                  headers := ⟨head.headers.fields ++ added⟩, body := body }, rest)) := by
  intro start body r head
  have hstart : Written start [] := written_new hw ho capacity
  have hrun : Written (run ops start) body :=
    written_carries.run hstart ops fun op hm ha _ _ _ => absurd (ha.symm.trans (hops op hm)) (by decide)
  obtain ⟨hok, hdone⟩ := written_carries.complete_accept hrun
  constructor
  · exact hok
  intro hread
  have hp : r.2.phase = .completed := complete_completed hok
  have hl : Laid head r.2.phase r.2.sink.1 r.2.sink.2.octets r.2.buffer body := hdone.laid
  rw [hp] at hl
  obtain ⟨hd, hb⟩ := laid_done hl
  rw [hd, hb] at hl
  rcases laid_read hl hread with ⟨_, h⟩ | ⟨_, h | h⟩
  · exact ⟨[], by simp, by simp, h⟩
  · exact ⟨_, by simp, by simp, h⟩
  · exact ⟨_, by simp, by simp, h⟩

/-- Two writes with a flush between them, the second with a line end in it. -/
theorem streamed_response_read_back :
    let start := Generator.new (Framing.pending, ({} : Writer)) 8
    let ops : List ResponseOp :=
      [.status 404, .addHeader "Server" "a: b", .write [1, 2, 3], .flush, .write [13, 10, 48, 13, 10]]
    let r := (run ops start).perform .complete
    r.1 = .ok () ∧ r.2.head.Readable (accepted ops start []) ∧
      ∃ added : List Field, added.length ≤ 1 ∧
        (∀ f ∈ added, f.name = contentLength ∨ f.name = transferEncoding) ∧
        ∀ rest, Received.read? (r.2.sink.2.octets ++ rest) =
          some ({ version := r.2.head.version, statusLine := r.2.head.statusLine,
                  headers := ⟨r.2.head.headers.fields ++ added⟩, body := accepted ops start [] }, rest) := by
  intro start ops r
  have hhead : r.2.head =
      { status := ⟨404, by decide, by decide⟩, headers := ⟨[⟨"Server", "a: b"⟩]⟩ } := by
    simp only [r, ops, start]
    decide +kernel
  have hread : r.2.head.Readable (accepted ops start []) := by
    rw [hhead]
    have hplain : Field.Plain ⟨"Server", "a: b"⟩ := ⟨by decide, by decide⟩
    exact
      { fields := fun f hf => List.mem_singleton.mp hf ▸ hplain
        reason := fun _ h => by cases h
        bodied := by decide
        uncoded := by decide
        length := .inl (by decide) }
  have h := response_read_back {} ⟨rfl, fun _ => rfl⟩ rfl 8 ops (by decide)
  simp only [r, start] at hread ⊢
  exact ⟨h.1, hread, h.2 hread⟩

end Generator

end FramedHttp
