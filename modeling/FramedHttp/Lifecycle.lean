/-!
# Lifecycle of a request

The stages that one request passes, in their order. The numbering is the one under which a stage is
shared between the side that receives frames and the side that reads the body, and `ofNumber` undoes it.
-/

set_option autoImplicit false

namespace FramedHttp

inductive Lifecycle where
  | initial
  | requestLine
  | headerFields
  | headersComplete
  | body
  | final
  deriving DecidableEq, Repr

namespace Lifecycle

def all : List Lifecycle :=
  [.initial, .requestLine, .headerFields, .headersComplete, .body, .final]

def number : Lifecycle → Nat
  | .initial => 0
  | .requestLine => 1
  | .headerFields => 2
  | .headersComplete => 3
  | .body => 4
  | .final => 5

def ofNumber : Nat → Lifecycle
  | 0 => .initial
  | 1 => .requestLine
  | 2 => .headerFields
  | 3 => .headersComplete
  | 4 => .body
  | _ => .final

theorem ofNumber_number (s : Lifecycle) : ofNumber s.number = s := by
  cases s <;> rfl

def name : Lifecycle → String
  | .initial => "Initial"
  | .requestLine => "RequestLine"
  | .headerFields => "HeaderFields"
  | .headersComplete => "HeadersComplete"
  | .body => "Body"
  | .final => "Final"

/-- Buffered body bytes may be looked at. -/
def isReading : Lifecycle → Bool
  | .headersComplete | .body => true
  | _ => false

/-- A reader may wait for body bytes. -/
def canBlock : Lifecycle → Bool
  | .headersComplete | .body | .final => true
  | _ => false

/-- A reader may wait from the end of the header section on. -/
theorem canBlock_iff {s : Lifecycle} : s.canBlock = true ↔ headersComplete.number ≤ s.number := by
  cases s <;> decide

theorem final_iff {s : Lifecycle} : s = .final ↔ final.number ≤ s.number := by
  cases s <;> decide

/-- The stages that come later. -/
def later (s : Lifecycle) : List Lifecycle :=
  all.filter fun t => decide (s.number < t.number)

end Lifecycle

end FramedHttp
