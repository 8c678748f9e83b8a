import FramedHttp.Content.Body

/-!
# Bodies in pieces

A source that is known in advance: a list of pieces, each a fragment, an end of the body or a failure.
Once the list is used up, the body has ended.
-/

set_option autoImplicit false

namespace FramedHttp.Content

inductive Piece where
  | fragment (octets : Octets)
  | ended
  | failed (error : EngineError)
  deriving DecidableEq, Repr

structure Pieces where
  /-- The unread part of the fragment that was handed out last. -/
  current : Octets := []
  left : List Piece := []
  deriving DecidableEq, Repr

namespace Pieces

def await (s : Pieces) : Await EngineError × Pieces :=
  if s.current.isEmpty then
    match s.left with
    | [] => (.ended, s)
    | .fragment octets :: rest => (.content octets, { current := octets, left := rest })
    | .ended :: rest => (.ended, { s with left := rest })
    | .failed e :: rest => (.failed e, { s with left := rest })
  else (.content s.current, s)

def consume (n : Nat) (s : Pieces) : Outcome EngineError Pieces :=
  if n ≤ s.current.length then (.ok (), { s with current := s.current.drop n })
  else (.error (.illegalState (.other "scripted consume")), s)

instance : Source Pieces where
  available s := .ok s.current.length
  await _ s := s.await
  expire _ s := (.timeout, s)
  consume := consume
  discard s := drain await consume (s.left.length + 2) s
  reads s := s.left.length + 2

end Pieces

end FramedHttp.Content
