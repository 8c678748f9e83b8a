import FramedHttp.Content.Source

/-!
# Request body

Reading a body from a source as from a blocking byte stream. One read takes at most the wanted number of
octets, never more than one fragment holds, and takes nothing when it fails. A longer reading is a
sequence of reads: it goes on after an interruption, stops at the first other failure, and can be put
aside while the source has nothing yet.
-/

set_option autoImplicit false

namespace FramedHttp.Content

inductive Read where
  | octets (octets : Octets)
  | failed (error : IoError)
  | waiting
  deriving DecidableEq, Repr

/-- What a reading is to bring. -/
inductive Goal where
  /-- One read of at most so many octets. -/
  | once (most : Nat)
  | exactly (n : Nat)
  | toEnd
  deriving DecidableEq, Repr

structure Reading where
  goal : Goal
  got : Octets := []
  /-- The reader has asked for frames and waits. -/
  waits : Bool := false
  deriving DecidableEq, Repr

inductive Progress where
  | done (result : Except EngineError Octets)
  | more (reading : Reading)
  | waiting (reading : Reading)

namespace Reading

/-- How many octets the next read may take, if there is a limit. -/
def wanted (r : Reading) : Option Nat :=
  match r.goal with
  | .once most => some most
  | .exactly n => some (n - r.got.length)
  | .toEnd => none

def cut (wanted : Option Nat) (octets : Octets) : Octets :=
  match wanted with
  | some n => octets.take n
  | none => octets

def unfilled : IoError := ⟨.unexpectedEof, "failed to fill whole buffer"⟩

/-- The reading after a read that brought octets; none at all means the end of the body. -/
def receive (octets : Octets) (r : Reading) : Progress :=
  let got := r.got ++ octets
  match r.goal with
  | .once _ => .done (.ok got)
  | .exactly n =>
    if octets.isEmpty then .done (.error (.io unfilled))
    else if n ≤ got.length then .done (.ok got)
    else .more { r with got := got, waits := false }
  | .toEnd =>
    if octets.isEmpty then .done (.ok got) else .more { r with got := got, waits := false }

/-- The reading after a failed read: an interruption is no reason to give up a longer reading. -/
def fail (e : IoError) (r : Reading) : Progress :=
  match r.goal, e.kind with
  | .exactly _, .interrupted => .more { r with waits := false }
  | .toEnd, .interrupted => .more { r with waits := false }
  | _, _ => .done (.error (.io e))

def proceed (read : Read) (r : Reading) : Progress :=
  match read with
  | .octets octets => r.receive octets
  | .failed e => r.fail e
  | .waiting => .waiting { r with waits := true }

end Reading

section Reads

variable {γ : Type} [Source γ]

/-- One read into a buffer of the wanted size. A buffer of no size is filled at once. -/
def read (waits : Bool) (wanted : Option Nat) (s : γ) : Read × γ :=
  if wanted = some 0 then (.octets [], s)
  else
    match Source.await waits s with
    | (.content fragment, s) =>
      let octets := Reading.cut wanted fragment
      match Source.consume octets.length s with
      | (.ok _, s) => (.octets octets, s)
      | (.error e, s) => (.failed e.toReadError, s)
    | (.ended, s) => (.octets [], s)
    | (.failed e, s) => (.failed e.toReadError, s)
    | (.waiting, s) => (.waiting, s)

def Reading.step (r : Reading) (s : γ) : Progress × γ :=
  let x := read r.waits r.wanted s
  (r.proceed x.1, x.2)

/-- Exactly no octets are read without a read. -/
def Reading.start (goal : Goal) : Progress :=
  match goal with
  | .exactly 0 => .done (.ok [])
  | _ => .more { goal := goal }

/-- A wait expires at once, for a reader that nobody delivers to in the meantime. -/
def Progress.finish (maxIdle : Duration) : Nat → Progress → γ → Except EngineError Octets × γ
  | _, .done result, s => (result, s)
  | 0, .more r, s => (.ok r.got, s)
  | 0, .waiting r, s => (.ok r.got, s)
  | n + 1, .more r, s =>
    let x := r.step s
    finish maxIdle n x.1 x.2
  | n + 1, .waiting r, s =>
    let x := Source.expire maxIdle s
    finish maxIdle n (r.fail x.1.toReadError) x.2

def readAll (maxIdle : Duration) (goal : Goal) (s : γ) : Except EngineError Octets × γ :=
  (Reading.start goal).finish maxIdle (Source.reads s + 2) s

end Reads

/-- One use of a request body. -/
inductive BodyOp where
  | available
  | read (most : Nat)
  | readExact (n : Nat)
  | readToEnd
  | readText
  | discard
  deriving DecidableEq, Repr

/-- What a use of a body that needs no waiting answers. -/
inductive BodyAnswer where
  | done
  | count (n : Nat)
  | octets (octets : Octets)
  deriving DecidableEq, Repr

/-- The goal of an operation that reads. -/
def BodyOp.goal? : BodyOp → Option Goal
  | .read most => some (.once most)
  | .readExact n => some (.exactly n)
  | .readToEnd => some .toEnd
  | .readText => some .toEnd
  | _ => none

def notText : IoError := ⟨.invalidData, "stream did not contain valid UTF-8"⟩

/-- What the reader makes of the octets in the end: a text has to be well formed as a whole. -/
def BodyOp.accept (op : BodyOp) (octets : Octets) : Except EngineError BodyAnswer :=
  match op with
  | .readText =>
    match Octets.text? octets with
    | some _ => .ok (.octets octets)
    | none => .error (.io notText)
  | _ => .ok (.octets octets)

section Operations

variable {γ : Type} [Source γ]

/-- The operations that need no reading. -/
def BodyOp.immediate (op : BodyOp) (s : γ) : Except EngineError BodyAnswer × γ :=
  match op with
  | .available => ((Source.available s).map .count, s)
  | .discard =>
    let r := Source.discard s
    (r.1.map fun _ => .done, r.2)
  | _ => (.ok .done, s)

def BodyOp.perform (maxIdle : Duration) (op : BodyOp) (s : γ) : Except EngineError BodyAnswer × γ :=
  match op.goal? with
  | none => op.immediate s
  | some goal =>
    let r := readAll maxIdle goal s
    (r.1.bind op.accept, r.2)

end Operations

end FramedHttp.Content
