import FramedHttp.Exchange.Direct
import FramedHttp.Proofs.Exchange.Header
import FramedHttp.Proofs.Stream.CallbackOrder

/-!
# What becomes of a request

At the end of the header section an exchange has the whole request: it answers a request line that makes no
sense by itself and hands every other request to a worker. It gives its sink away before it knows whether the
worker can be named, and so a path with a NUL character, and nothing else, leaves the request without a worker
and without an answer.
-/

set_option autoImplicit false

namespace FramedHttp

open Content

namespace Exchange

variable {σ ο γ : Type}

/-- Fields before the request line made sense of are dropped. -/
theorem fields_dropped {x : Exchange σ} (h : x.head = none) (fields : List Field) :
    fields.foldl (fun x f => x.field f.name f.value) x = x := by
  induction fields generalizing x with
  | nil => rfl
  | cons f fields ih =>
    have hf : x.field f.name f.value = x := by
      cases x
      simp_all [field]
    rw [List.foldl_cons, hf]
    exact ih h

/-- Fields gather in the head, in order. -/
theorem fields_gathered {x : Exchange σ} {head : RequestHead} (h : x.head = some head) (fields : List Field) :
    fields.foldl (fun x f => x.field f.name f.value) x =
      { x with head := some { head with headers := ⟨head.headers.fields ++ fields⟩ } } := by
  induction fields generalizing x head with
  | nil =>
    cases x
    simp_all
  | cons f fields ih =>
    have hf : x.field f.name f.value = { x with head := some (head.withField f.name f.value) } := by
      simp [field, h]
    rw [List.foldl_cons, hf, ih rfl]
    simp [RequestHead.withField]

variable [Sink (σ × ο)] {consume : Nat → γ → Outcome EngineError γ}

/-- Callbacks one after the other, up to the first that fails. -/
def receiveAll (consume : Nat → γ → Outcome EngineError γ) :
    List Callback → Exchange σ × γ × ο → Outcome EngineError (Exchange σ × γ × ο)
  | [], s => (.ok (), s)
  | cb :: rest, s => (receive consume cb s).andThen (receiveAll consume rest)

theorem receiveAll_fields (fields : List Field) (rest : List Callback) (x : Exchange σ) (s : γ × ο) :
    receiveAll consume (fields.map (fun f => .field f.name f.value) ++ rest) (x, s) =
      receiveAll consume rest (fields.foldl (fun x f => x.field f.name f.value) x, s) := by
  induction fields generalizing x with
  | nil => rfl
  | cons f fields ih => exact ih (x.field f.name f.value)

theorem receiveAll_headersComplete (x : Exchange σ) (body : γ) (outlet : ο) :
    receiveAll consume [.headersComplete] (x, body, outlet) =
      (x.headersComplete outlet).mapState fun y => (y.1, body, y.2) := by
  simp only [receiveAll, receive]
  rcases x.headersComplete outlet with ⟨_ | _, _⟩ <;> rfl

/-- The answer to a request line that makes no sense, as the sink takes it. -/
def refusalAnswer (sink : σ) (outlet : ο) : Outcome EngineError (σ × ο) :=
  (Sink.emit (.headers (.ofStatus .badRequest) [] true) (sink, outlet)).andThen (Sink.emit .finish)

theorem refusal_answered (bufferSize : Nat) (sink : σ) (outlet : ο) :
    (refusal bufferSize sink outlet).mapState Generator.sink = refusalAnswer sink outlet := by
  have hc : refusal bufferSize sink outlet =
      (((Generator.new (sink, outlet) bufferSize).setStatus .badRequest).commit true).andThen Generator.close :=
    Generator.complete_opened rfl
  exact (congrArg _ hc).trans (Outcome.mapState_andThen fun _ => rfl)

/-- A request whose line makes no sense is answered. One whose line does is handed to a worker with all of its
fields, unless there is a NUL character in its path: then the exchange crashes, and has neither a worker nor
its sink. Nothing else becomes of any request. -/
theorem answered_or_dispatched (handler : Handler) (maxIdle : Duration) (bufferSize : Nat) (sink : σ) (body : γ)
    (outlet : ο) (consume : Nat → γ → Outcome EngineError γ) (method target version : String) (fields : List Field) :
    let x : Exchange σ := { handler := handler, maxIdle := maxIdle, bufferSize := bufferSize, sink := some sink }
    let r := receiveAll consume (Callback.head method target version fields ++ [.headersComplete]) (x, body, outlet)
    let answer := (Sink.emit (.headers (.ofStatus .badRequest) [] true) (sink, outlet)).andThen (Sink.emit .finish)
    (∀ e, RequestHead.ofRequestLine method target version = .error e →
      r = (answer.1, { x with sink := none, refused := true }, body, answer.2.2)) ∧
    (∀ head, RequestHead.ofRequestLine method target version = .ok head →
      ('\x00' ∉ Target.path target.toList →
        let w := x.workerFor sink { head with headers := ⟨fields⟩ }
        r = (.ok (), { x with sink := none, worker := some w, started := 1 }, body, outlet)) ∧
      ('\x00' ∈ Target.path target.toList → r = (.error .crashed, { x with sink := none }, body, outlet))) := by
  intro x r answer
  have hr : r = ((fields.foldl (fun x f => x.field f.name f.value) (x.start method target version)).headersComplete
      outlet).mapState fun y => (y.1, body, y.2) :=
    (receiveAll_fields fields _ (x.start method target version) _).trans (receiveAll_headersComplete _ body outlet)
  constructor
  · intro e he
    have hx : x.start method target version = { x with lineError := some e } := by
      simp [start, he]
    have ha : (refusal bufferSize sink outlet).mapState Generator.sink = answer := refusal_answered bufferSize sink outlet
    rw [hr, hx, fields_dropped rfl, ← ha]
    rfl
  · intro head he
    obtain ⟨htarget, hheaders⟩ := RequestHead.ofRequestLine_head he
    have hx : x.start method target version = { x with head := some head } := by
      simp [start, he]
    have hfields : fields.foldl (fun x f => x.field f.name f.value) (x.start method target version) =
        { x with head := some { head with headers := ⟨fields⟩ } } := by
      rw [hx, fields_gathered rfl, hheaders]
      rfl
    have hn : isNameable { head with headers := ⟨fields⟩ } = true ↔ '\x00' ∉ Target.path target.toList := by
      rw [isNameable_iff, htarget]
    rw [hr, hfields]
    constructor
    · intro hpath w
      simp [headersComplete, dispatch, x, w, hn.mpr hpath, Outcome.mapState, workerFor]
    · intro hpath
      have hnot : isNameable { head with headers := ⟨fields⟩ } = false := by
        apply Bool.eq_false_iff.mpr
        intro h
        exact hn.mp h hpath
      simp [headersComplete, dispatch, x, hnot, Outcome.mapState]

/-- A NUL character in the path: no worker, no answer, and no sink to answer with any more. -/
theorem nul_path_unanswered :
    let s := DirectExchange.new [] 16384 {} {}
    let request := Callback.head "GET" "/a\x00b" "HTTP/1.1" [] ++ [.headersComplete]
    let r := receiveAll Pieces.consume request (s.exchange, s.body, s.writer)
    r.1 = .error .crashed ∧ r.2.1.worker.isNone = true ∧ r.2.1.sink.isNone = true ∧ r.2.2.2.octets = [] :=
  ⟨rfl, rfl, rfl, rfl⟩

end Exchange

end FramedHttp
