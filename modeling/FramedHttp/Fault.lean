/-!
# Scripted faults

A list of faults says which calls fail: the call of the given kind with the given number, counted from
zero among the calls of that kind. Any pattern of failures over finitely many calls is such a list.
-/

set_option autoImplicit false

namespace FramedHttp

structure Fault (κ ε : Type) where
  on : κ
  nth : Nat
  error : ε
  deriving Repr

/-- The error of the `n`-th call of a kind, if that call fails. -/
def faultAt {κ ε : Type} [DecidableEq κ] (faults : List (Fault κ ε)) (on : κ) (n : Nat) : Option ε :=
  (faults.find? fun f => f.on = on ∧ f.nth = n).map Fault.error

@[simp] theorem faultAt_nil {κ ε : Type} [DecidableEq κ] (on : κ) (n : Nat) :
    faultAt ([] : List (Fault κ ε)) on n = none := rfl

end FramedHttp
