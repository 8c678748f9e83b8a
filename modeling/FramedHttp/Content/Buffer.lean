import FramedHttp.Octets

/-!
# Content buffer

One fragment of a request body at a time, and the mark that no more will come. A new fragment is refused
until the one before it was read to its end. Once the body is given up, fragments are dropped on arrival.
-/

set_option autoImplicit false

namespace FramedHttp.Content

structure Buffer where
  /-- The part of the fragment that is still unread. -/
  fragment : Octets := []
  complete : Bool := false
  discarding : Bool := false
  deriving DecidableEq, Repr

namespace Buffer

def isDrained (b : Buffer) : Bool := b.fragment.isEmpty

/-- The body has ended and every octet of it was read. -/
def isExhausted (b : Buffer) : Bool := b.complete && b.isDrained

/-- Refused with the number of octets that are still unread. -/
def fill (fragment : Octets) (last : Bool) (b : Buffer) : Except Nat Buffer :=
  if b.isDrained then
    .ok { b with
      fragment := if b.discarding then b.fragment else fragment
      complete := b.complete || last }
  else .error b.fragment.length

/-- At most what there is. -/
def consume (n : Nat) (b : Buffer) : Buffer :=
  { b with fragment := b.fragment.drop n }

/-- Exactly so many octets, or nothing. -/
def release? (n : Nat) (b : Buffer) : Option Buffer :=
  if n ≤ b.fragment.length then some (b.consume n) else none

def markComplete (b : Buffer) : Buffer :=
  { b with complete := true }

/-- Drops the fragment and all that follow. -/
def discard (b : Buffer) : Buffer :=
  { b with fragment := [], discarding := true }

theorem isDrained_iff {b : Buffer} : b.isDrained = true ↔ b.fragment = [] := by
  simp [isDrained]

@[simp] theorem fragment_consume (n : Nat) (b : Buffer) : (b.consume n).fragment = b.fragment.drop n := rfl

@[simp] theorem isDrained_discard (b : Buffer) : b.discard.isDrained = true := rfl

theorem release?_eq_some_iff {n : Nat} {b c : Buffer} :
    b.release? n = some c ↔ n ≤ b.fragment.length ∧ b.consume n = c := by
  simp [release?]

/-- A frame is accepted exactly when nothing is unread. -/
theorem fill_ok_iff {b c : Buffer} {data : Octets} {last : Bool} : b.fill data last = .ok c ↔
    b.fragment = [] ∧ c = { b with fragment := if b.discarding then [] else data, complete := b.complete || last } := by
  unfold fill
  by_cases hd : b.fragment = []
  · rw [if_pos (isDrained_iff.mpr hd), Except.ok.injEq]
    constructor
    · intro h
      exact ⟨hd, by rw [← h, hd]⟩
    · rintro ⟨_, rfl⟩
      rw [hd]
  · simp [isDrained, hd]

theorem fill_error_iff {b : Buffer} {data : Octets} {last : Bool} :
    (∃ n, b.fill data last = .error n) ↔ b.fragment ≠ [] := by
  unfold fill
  by_cases hd : b.fragment = [] <;> simp [isDrained, hd]

end Buffer

/-- One use of a buffer. -/
inductive BufferOp where
  | fill (fragment : Octets) (last : Bool)
  | consume (n : Nat)
  | markComplete
  | discard
  deriving DecidableEq, Repr

namespace Buffer

/-- With the number of octets consumed or dropped, if the operation counts them. -/
def perform : BufferOp → Buffer → Except Nat (Option Nat) × Buffer
  | .fill fragment last, b =>
    match b.fill fragment last with
    | .ok b => (.ok none, b)
    | .error pending => (.error pending, b)
  | .consume n, b => (.ok (some (min n b.fragment.length)), b.consume n)
  | .markComplete, b => (.ok none, b.markComplete)
  | .discard, b => (.ok (some b.fragment.length), b.discard)

end Buffer

end FramedHttp.Content
