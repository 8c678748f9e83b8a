import FramedHttp.Fault
import FramedHttp.Message.Head
import FramedHttp.Octets
import FramedHttp.Outcome

/-!
# Sinks

A response leaves its generator as a sequence of emissions: the headers with the body octets known by
then, further body, the end, and on the side interim responses and raw octets. A sink takes emissions one
at a time. `Journal` is a sink that keeps the emissions it was given and fails where its faults say.
-/

set_option autoImplicit false

namespace FramedHttp

inductive Emission where
  | headers (head : ResponseHead) (buffered : Octets) (last : Bool)
  | body (chunk : Octets) (last : Bool)
  | finish
  | informational (status : Status)
  | raw (octets : Octets)
  deriving DecidableEq, Repr

class Sink (σ : Type) where
  emit : Emission → σ → Outcome EngineError σ
  /-- A bound on how often it can still report an interrupted write. -/
  interruptions : σ → Nat := fun _ => 0

inductive EmissionKind where
  | headers
  | body
  | finish
  deriving DecidableEq, Repr

/-- The kind of an emission that belongs to the response proper. -/
def Emission.kind? : Emission → Option EmissionKind
  | .headers .. => some .headers
  | .body .. => some .body
  | .finish => some .finish
  | _ => none

structure Journal where
  faults : List (Fault EmissionKind EngineError) := []
  entries : List Emission := []
  deriving Repr

namespace Journal

/-- How many emissions of a kind were attempted so far. -/
def attempts (j : Journal) (kind : EmissionKind) : Nat :=
  j.entries.countP fun e => e.kind? = some kind

def record (j : Journal) (e : Emission) : Journal :=
  { j with entries := j.entries ++ [e] }

def take (kind : EmissionKind) (e : Emission) (j : Journal) : Outcome EngineError Journal :=
  match faultAt j.faults kind (j.attempts kind) with
  | some err => (.error err, j.record e)
  | none => (.ok (), j.record e)

def emit (e : Emission) (j : Journal) : Outcome EngineError Journal :=
  match e with
  | .headers .. => take .headers e j
  | .body .. => take .body e j
  | .finish => take .finish e j
  | .informational _ => (.error .noInformational, j)
  | .raw _ => (.error .noRawBytes, j)

instance : Sink Journal where
  emit := emit
  interruptions j := j.faults.length

end Journal

end FramedHttp
