import FramedHttp.Content.Pieces
import FramedHttp.Proofs.Content.Reading

/-!
# Sources that follow a script

A script is a list of fragments, failures and ends of the body, in any order. A source that follows one answers
with the unread rest of the fragment before it, and goes on in the script when there is none. Reads of any sizes
lose no octet of it and repeat none, whatever fails between them, and the rest of the body is given up as far as
the script says.
-/

set_option autoImplicit false

namespace FramedHttp.Content

namespace Piece

/-- What a piece brings of the body. -/
def octets : Piece → Octets
  | .fragment octets => octets
  | _ => []

def isFragment : Piece → Bool
  | .fragment _ => true
  | _ => false

end Piece

/-- What a read copies out. -/
def Read.taken : Read → Octets
  | .octets data => data
  | _ => []

/-- The outcome that the front of a script reports: its failure, or that nothing is left. -/
def reported : List Piece → Except EngineError Unit
  | .failed e :: _ => .error e
  | _ => .ok ()

/-- What follows the fragments in front of a script is an end, a failure or nothing. -/
theorem report_cases (left : List Piece) : left.dropWhile Piece.isFragment = [] ∨
    (∃ rest, left.dropWhile Piece.isFragment = .ended :: rest) ∨
    ∃ e rest, left.dropWhile Piece.isFragment = .failed e :: rest := by
  induction left with
  | nil => exact .inl rfl
  | cons piece left ih =>
    cases piece with
    | fragment => exact ih
    | ended => exact .inr (.inl ⟨left, rfl⟩)
    | failed e => exact .inr (.inr ⟨e, left, rfl⟩)

theorem reported_ok (left : List Piece) : reported (left.dropWhile Piece.isFragment) = .ok () ↔
    left.dropWhile Piece.isFragment = [] ∨ (left.dropWhile Piece.isFragment).head? = some .ended := by
  rcases report_cases left with h | ⟨_, h⟩ | ⟨_, _, h⟩
  · rw [h]
    exact iff_of_true rfl (.inl rfl)
  · rw [h]
    exact iff_of_true rfl (.inr rfl)
  · rw [h]
    exact iff_of_false nofun (by simp)

theorem reported_error (left : List Piece) (e : EngineError) :
    reported (left.dropWhile Piece.isFragment) = .error e ↔
      (left.dropWhile Piece.isFragment).head? = some (.failed e) := by
  rcases report_cases left with h | ⟨_, h⟩ | ⟨_, _, h⟩
  · rw [h]
    exact iff_of_false nofun nofun
  · rw [h]
    exact iff_of_false nofun (by simp)
  · rw [h]
    simp [reported]

namespace Pieces

/-- No fragment to come is empty. -/
def Full (p : Pieces) : Prop :=
  ∀ octets, .fragment octets ∈ p.left → octets ≠ []

/-- What a reader finds, case by case. -/
inductive Finds : Pieces → Await EngineError → Pieces → Prop
  | unread {current : Octets} {left : List Piece} (h : current ≠ []) :
      Finds { current := current, left := left } (.content current) { current := current, left := left }
  | fragment (octets : Octets) (left : List Piece) :
      Finds { left := .fragment octets :: left } (.content octets) { current := octets, left := left }
  | out : Finds {} .ended {}
  | ended (left : List Piece) : Finds { left := .ended :: left } .ended { left := left }
  | failed (e : EngineError) (left : List Piece) : Finds { left := .failed e :: left } (.failed e) { left := left }

theorem await_finds (p : Pieces) : Finds p p.await.1 p.await.2 := by
  obtain ⟨current, left⟩ := p
  cases current with
  | nil =>
    rcases left with _ | ⟨octets | _ | e, left⟩
    · exact .out
    · exact .fragment octets left
    · exact .ended left
    · exact .failed e left
  | cons b current => exact .unread (List.cons_ne_nil b current)

theorem Finds.await_eq {p q : Pieces} {a : Await EngineError} (h : Finds p a q) : p.await = (a, q) := by
  cases h with
  | unread h => exact if_neg (by simpa using h)
  | _ => rfl

/-- A fragment that is found is all that is unread. -/
theorem Finds.content {p q : Pieces} {fragment : Octets} (h : Finds p (.content fragment) q) :
    q.current = fragment := by
  cases h <;> rfl

theorem Finds.content_ne_nil {p q : Pieces} {fragment : Octets} (h : Finds p (.content fragment) q) (hp : p.Full) :
    fragment ≠ [] := by
  cases h with
  | unread h => exact h
  | fragment => exact hp fragment List.mem_cons_self

theorem Finds.not_waiting {p q : Pieces} : ¬ Finds p .waiting q :=
  nofun

/-- What is found is unread, or stands in front of the script. -/
theorem Finds.conserves {p q : Pieces} {a : Await EngineError} (h : Finds p a q) :
    ∃ handed, p.left = handed ++ q.left ∧ p.current ++ handed.flatMap Piece.octets = q.current := by
  cases h with
  | unread => exact ⟨[], rfl, List.append_nil _⟩
  | fragment octets left => exact ⟨[.fragment octets], rfl, List.append_nil _⟩
  | out => exact ⟨[], rfl, rfl⟩
  | ended left => exact ⟨[.ended], rfl, rfl⟩
  | failed e left => exact ⟨[.failed e], rfl, rfl⟩

/-- What a read of at most `n` octets answers and leaves. -/
inductive Takes (n : Nat) (p : Pieces) : Read → Pieces → Prop
  | roomless (hn : n = 0) : Takes n p (.octets []) p
  | part {q : Pieces} {fragment : Octets} (hn : 0 < n) (h : Finds p (.content fragment) q) :
      Takes n p (.octets (fragment.take n)) { q with current := fragment.drop n }
  | ended {q : Pieces} (hn : 0 < n) (h : Finds p .ended q) : Takes n p (.octets []) q
  | failed {q : Pieces} {e : EngineError} (hn : 0 < n) (h : Finds p (.failed e) q) :
      Takes n p (.failed e.toReadError) q

namespace Takes

variable {n : Nat} {p q : Pieces} {a : Read} (h : Takes n p a q)
include h

/-- What is unread and what is handed out meanwhile is what a read takes and leaves unread. -/
theorem conserves :
    ∃ handed, p.left = handed ++ q.left ∧ p.current ++ handed.flatMap Piece.octets = a.taken ++ q.current := by
  cases h with
  | roomless => exact ⟨[], rfl, List.append_nil _⟩
  | @part q fragment _ hf =>
    obtain ⟨handed, hleft, hoctets⟩ := hf.conserves
    rw [hf.content] at hoctets
    exact ⟨handed, hleft, hoctets.trans (List.take_append_drop n fragment).symm⟩
  | ended _ hf | failed _ hf => exact hf.conserves

/-- A read brings nothing if there is no room for it, and at the end. -/
theorem nothing_iff (hp : p.Full) : a = .octets [] ↔ n = 0 ∨ p.await.1 = .ended := by
  cases h with
  | roomless hn => exact iff_of_true rfl (.inl hn)
  | part hn hf =>
    have hfragment := hf.content_ne_nil hp
    rw [hf.await_eq]
    simp [Nat.ne_of_gt hn, hfragment]
  | ended _ hf => exact iff_of_true rfl (.inr (by rw [hf.await_eq]))
  | failed hn hf =>
    rw [hf.await_eq]
    simp [Nat.ne_of_gt hn]

theorem of_content (hn : 0 < n) {fragment : Octets} (ha : p.await.1 = .content fragment) :
    a = .octets (fragment.take n) ∧ q.current = fragment.drop n := by
  cases h with
  | roomless hz => exact absurd hz (Nat.ne_of_gt hn)
  | part _ hf =>
    rw [hf.await_eq] at ha
    cases ha
    exact ⟨rfl, rfl⟩
  | ended _ hf | failed _ hf =>
    rw [hf.await_eq] at ha
    cases ha

/-- A failure that is met is taken out of the script, and nothing else. -/
theorem of_failed (hn : 0 < n) {e : EngineError} (ha : p.await.1 = .failed e) :
    a = .failed e.toReadError ∧ q.current = p.current ∧ p.left = .failed e :: q.left := by
  cases h with
  | roomless hz => exact absurd hz (Nat.ne_of_gt hn)
  | failed _ hf =>
    rw [hf.await_eq] at ha
    cases ha
    cases hf
    exact ⟨rfl, rfl, rfl⟩
  | part _ hf | ended _ hf =>
    rw [hf.await_eq] at ha
    cases ha

end Takes

end Pieces

open Pieces

variable {γ : Type} [Source γ]

/-- The source follows the script that `view` tells of it: it answers what the script has next, and takes as much
out of a fragment as is consumed. -/
structure Scripted (view : γ → Pieces) : Prop where
  await : ∀ waits s, (Source.await waits s).map id view = (view s).await
  consume : ∀ n s, n ≤ (view s).current.length → (Source.consume n s).map id view = (view s).consume n

/-- The pieces themselves are such a source. -/
theorem scripted_pieces : Scripted (id : Pieces → Pieces) where
  await _ _ := rfl
  consume _ _ _ := rfl

/-- Reading and consuming up to the end or the first failure, without a bound, with the number of the fragments
and reports that are met. -/
inductive Drains : γ → Nat → Outcome EngineError γ → Prop
  | ended {s t : γ} (ha : Source.await false s = (.ended, t)) : Drains s 1 (.ok (), t)
  | failed {s t : γ} {e : EngineError} (ha : Source.await false s = (.failed e, t)) : Drains s 1 (.error e, t)
  | refused {s t u : γ} {fragment : Octets} {e : EngineError} (ha : Source.await false s = (.content fragment, t))
      (hc : Source.consume fragment.length t = (.error e, u)) : Drains s 1 (.error e, u)
  | more {s t u : γ} {fragment : Octets} {n : Nat} {r : Outcome EngineError γ}
      (ha : Source.await false s = (.content fragment, t)) (hc : Source.consume fragment.length t = (.ok (), u))
      (hn : Drains u n r) : Drains s (n + 1) r

namespace Drains

variable {s : γ} {n m k : Nat} {r q : Outcome EngineError γ}

theorem deterministic (h : Drains s n r) (h' : Drains s m q) : q = r := by
  induction h generalizing m q with
  | ended ha =>
    cases h' with
    | ended ha' =>
      cases ha.symm.trans ha'
      rfl
    | failed ha' | refused ha' | more ha' => cases ha.symm.trans ha'
  | failed ha =>
    cases h' with
    | failed ha' =>
      cases ha.symm.trans ha'
      rfl
    | ended ha' | refused ha' | more ha' => cases ha.symm.trans ha'
  | refused ha hc =>
    cases h' with
    | refused ha' hc' =>
      cases ha.symm.trans ha'
      cases hc.symm.trans hc'
      rfl
    | more ha' hc' =>
      cases ha.symm.trans ha'
      cases hc.symm.trans hc'
    | ended ha' | failed ha' => cases ha.symm.trans ha'
  | more ha hc _ ih =>
    cases h' with
    | more ha' hc' hn' =>
      cases ha.symm.trans ha'
      cases hc.symm.trans hc'
      exact ih hn'
    | refused ha' hc' =>
      cases ha.symm.trans ha'
      cases hc.symm.trans hc'
    | ended ha' | failed ha' => cases ha.symm.trans ha'

/-- A bound that leaves room for all that is met changes nothing. -/
theorem drain_eq (h : Drains s n r) (hk : n ≤ k) : drain (Source.await false) Source.consume k s = r := by
  induction h generalizing k with
  | ended ha | failed ha =>
    obtain ⟨k, rfl⟩ := Nat.exists_eq_add_of_le' hk
    rw [drain, ha]
  | refused ha hc =>
    obtain ⟨k, rfl⟩ := Nat.exists_eq_add_of_le' hk
    rw [drain, ha]
    dsimp only
    rw [hc, Outcome.andThen_error]
  | more ha hc _ ih =>
    obtain ⟨k, rfl⟩ := Nat.exists_eq_add_of_le' (Nat.le_trans (Nat.le_add_left 1 _) hk)
    rw [drain, ha]
    dsimp only
    rw [hc, Outcome.andThen_ok]
    exact ih (Nat.le_of_succ_le_succ hk)

end Drains

namespace Scripted

variable {view : γ → Pieces} (h : Scripted view) {s : γ}
include h

theorem finds (waits : Bool) (s : γ) : Finds (view s) (Source.await waits s).1 (view (Source.await waits s).2) := by
  have hf := (view s).await_finds
  rwa [← h.await waits s] at hf

theorem await_found {a : Await EngineError} {q : Pieces} (ha : Finds (view s) a q) (waits : Bool) :
    ∃ t, Source.await waits s = (a, t) ∧ view t = q := by
  have hv := h.await waits s
  rw [ha.await_eq] at hv
  obtain ⟨hanswer, hleft⟩ := Prod.mk.inj hv
  exact ⟨(Source.await waits s).2, Prod.ext hanswer rfl, hleft⟩

theorem consume_ok {n : Nat} (hn : n ≤ (view s).current.length) :
    ∃ t, Source.consume n s = (.ok (), t) ∧ view t = { view s with current := (view s).current.drop n } := by
  have hv := h.consume n s hn
  rw [Pieces.consume, if_pos hn] at hv
  obtain ⟨hanswer, hleft⟩ := Prod.mk.inj hv
  exact ⟨(Source.consume n s).2, Prod.ext hanswer rfl, hleft⟩

theorem takes (n : Nat) (s : γ) : Takes n (view s) (read false (some n) s).1 (view (read false (some n) s).2) := by
  rcases Nat.eq_zero_or_pos n with hn | hn
  · rw [read, if_pos (congrArg some hn)]
    exact .roomless hn
  · have hf := h.finds false s
    rw [read, if_neg (by simpa using Nat.ne_of_gt hn)]
    rcases ha : Source.await false s with ⟨fragment | _ | e | _, t⟩ <;> rw [ha] at hf
    · -- No more is consumed than the fragment holds, so the source follows the script in it.
      have hlen : (fragment.take n).length ≤ (view t).current.length := by
        rw [hf.content]
        exact List.length_take_le' n fragment
      obtain ⟨u, hc, hu⟩ := h.consume_ok hlen
      have hdrop : (view t).current.drop (fragment.take n).length = fragment.drop n := by
        rw [hf.content]
        exact List.drop_eq_drop_iff.mpr (by simp)
      dsimp only [Reading.cut]
      rw [hc, hu, hdrop]
      exact .part hn hf
    · exact .ended hn hf
    · exact .failed hn hf
    · exact absurd hf Finds.not_waiting

theorem readEach_conserves (sizes : List Nat) (s : γ) : ∃ handed,
    (view s).left = handed ++ (view (readEach sizes s).2).left ∧
      (view s).current ++ handed.flatMap Piece.octets =
        (readEach sizes s).1.flatMap Read.taken ++ (view (readEach sizes s).2).current := by
  induction sizes generalizing s with
  | nil => exact ⟨[], rfl, List.append_nil _⟩
  | cons n sizes ih =>
    obtain ⟨first, hfirst, hread⟩ := (h.takes n s).conserves
    obtain ⟨handed, hleft, hreads⟩ := ih (read false (some n) s).2
    refine ⟨first ++ handed, ?_, ?_⟩
    · rw [hfirst, hleft, List.append_assoc]
      rfl
    · rw [List.flatMap_append, ← List.append_assoc, hread, List.append_assoc, hreads, ← List.append_assoc]
      rfl

/-- Once nothing is unread, giving up the rest ends at the first report of the script. -/
theorem drains_drained {left : List Piece} (hs : view s = { left := left }) :
    ∃ n ≤ left.length + 1, ∃ r, Drains s n r ∧ r.1 = reported (left.dropWhile Piece.isFragment) ∧
      view r.2 = { left := (left.dropWhile Piece.isFragment).tail } := by
  induction left generalizing s with
  | nil =>
    have hf : Finds (view s) .ended {} := by
      rw [hs]
      exact .out
    obtain ⟨t, ha, ht⟩ := h.await_found hf false
    exact ⟨1, Nat.le_refl 1, _, .ended ha, rfl, ht⟩
  | cons piece left ih =>
    have hone : 1 ≤ (piece :: left).length + 1 := Nat.le_add_left 1 _
    cases piece with
    | fragment octets =>
      obtain ⟨t, ha, ht⟩ := h.await_found (hs ▸ Finds.fragment octets left) false
      obtain ⟨u, hc, hu⟩ := h.consume_ok (s := t) (n := octets.length) (Nat.le_of_eq (by rw [ht]))
      have hleft : view u = { left := left } := by rw [hu, ht, List.drop_length]
      obtain ⟨n, hn, r, hr, hanswer, hrest⟩ := ih hleft
      exact ⟨n + 1, Nat.succ_le_succ hn, r, .more ha hc hr, hanswer, hrest⟩
    | ended =>
      obtain ⟨t, ha, ht⟩ := h.await_found (hs ▸ Finds.ended left) false
      exact ⟨1, hone, _, .ended ha, rfl, ht⟩
    | failed e =>
      obtain ⟨t, ha, ht⟩ := h.await_found (hs ▸ Finds.failed e left) false
      exact ⟨1, hone, _, .failed ha, rfl, ht⟩

/-- Giving up the rest of the body ends at the first report of the script. -/
theorem drains (s : γ) : ∃ n ≤ (view s).left.length + 2, ∃ r, Drains s n r ∧
    r.1 = reported ((view s).left.dropWhile Piece.isFragment) ∧
    view r.2 = { left := ((view s).left.dropWhile Piece.isFragment).tail } := by
  by_cases hc : (view s).current = []
  · have hs : view s = { left := (view s).left } := by rw [← hc]
    obtain ⟨n, hn, hr⟩ := h.drains_drained hs
    exact ⟨n, Nat.le_succ_of_le hn, hr⟩
  · obtain ⟨t, ha, ht⟩ := h.await_found (Finds.unread hc : Finds (view s) _ _) false
    obtain ⟨u, hu, hleft⟩ := h.consume_ok (s := t) (n := (view s).current.length) (Nat.le_of_eq (by rw [ht]))
    have hdrained : view u = { left := (view s).left } := by rw [hleft, ht, List.drop_length]
    obtain ⟨n, hn, r, hr, hrest⟩ := h.drains_drained hdrained
    exact ⟨n + 1, Nat.succ_le_succ hn, r, .more ha hu hr, hrest⟩

end Scripted

/-- Over a source that follows a script of fragments that are not empty, reads of any sizes bring the octets in
their order: those taken and the rest that is unread are the fragments handed out so far. The next read takes as
much as there is room for out of the fragment that it finds, brings nothing just when it has no room or finds the
end, and a failure takes nothing but itself from the script. Giving up the rest then ends, at the first report: it
succeeds when that is an end of the body, and leaves what comes after it alone. -/
theorem scripted_reads {view : γ → Pieces} (h : Scripted view) (s : γ) (hs : (view s).Full) (sizes : List Nat) :
    let reads := (readEach sizes s).1
    let t := (readEach sizes s).2
    let found := (Source.await false t).1
    let rest := (view t).left.dropWhile Piece.isFragment
    (∃ handed, (view s).left = handed ++ (view t).left ∧
      (view s).current ++ handed.flatMap Piece.octets = reads.flatMap Read.taken ++ (view t).current) ∧
    (∀ n, let next := read false (some n) t
      readEach (sizes ++ [n]) s = (reads ++ [next.1], next.2) ∧
      (next.1 = .octets [] ↔ n = 0 ∨ found = .ended) ∧
      (∀ fragment, 0 < n → found = .content fragment →
        next.1 = .octets (fragment.take n) ∧ (fragment.take n).length = min n fragment.length ∧
        (view next.2).current = fragment.drop n) ∧
      ∀ e, 0 < n → found = .failed e →
        next.1 = .failed e.toReadError ∧ (view next.2).current = (view t).current ∧
        (view t).left = .failed e :: (view next.2).left) ∧
    ∃ n ≤ (view t).left.length + 2, ∃ r, Drains t n r ∧ (∀ m q, Drains t m q → q = r) ∧
      (∀ k, n ≤ k → drain (Source.await false) Source.consume k t = r) ∧
      (r.1 = .ok () ↔ rest = [] ∨ rest.head? = some .ended) ∧
      (∀ e, r.1 = .error e ↔ rest.head? = some (.failed e)) ∧ view r.2 = { left := rest.tail } := by
  intro reads t found rest
  obtain ⟨handed, hleft, hoctets⟩ := h.readEach_conserves sizes s
  have ht : (view t).Full := fun octets ho => hs octets (by rw [hleft]; exact List.mem_append_right handed ho)
  have hfound : found = (view t).await.1 := congrArg Prod.fst (h.await false t)
  rw [hfound]
  refine ⟨⟨handed, hleft, hoctets⟩, ?_, ?_⟩
  · intro n next
    have hnext : Takes n (view t) next.1 (view next.2) := h.takes n t
    refine ⟨readEach_snoc sizes n s, hnext.nothing_iff ht, ?_, fun e hn ha => hnext.of_failed hn ha⟩
    intro fragment hn ha
    obtain ⟨hanswer, hcurrent⟩ := hnext.of_content hn ha
    exact ⟨hanswer, List.length_take, hcurrent⟩
  · obtain ⟨n, hn, r, hr, hanswer, hrest⟩ := h.drains t
    refine ⟨n, hn, r, hr, fun m q hq => hr.deterministic hq, fun k hk => hr.drain_eq hk, ?_, ?_, hrest⟩
    · rw [hanswer]
      exact reported_ok (view t).left
    · intro e
      rw [hanswer]
      exact reported_error (view t).left e

/-- Reads that split fragments, meet a failure between them and go on behind it; then the rest is given up, up to
the end that comes before another failure. -/
theorem pieces_read :
    let script : Pieces := { left := [.fragment [1, 2, 3], .failed .timeout, .fragment [4, 5], .fragment [6], .ended,
      .failed .noRawBytes] }
    let t := (readEach [2, 0, 5, 1, 1] script).2
    script.Full ∧
    (readEach [2, 0, 5, 1, 1] script).1 =
      [.octets [1, 2], .octets [], .octets [3], .failed EngineError.timeout.toReadError, .octets [4]] ∧
    (∃ handed, script.left = handed ++ t.left ∧ handed.flatMap Piece.octets = [1, 2, 3, 4] ++ t.current) ∧
    (read false (some 4) t).1 = .octets [5] ∧
    Source.discard t = (.ok (), { left := [.failed .noRawBytes] }) := by
  intro script t
  have hfull : script.Full := by
    intro octets ho
    have hcases : octets = [1, 2, 3] ∨ octets = [4, 5] ∨ octets = [6] := by simpa [script] using ho
    rcases hcases with rfl | rfl | rfl <;> decide
  have hreads : (readEach [2, 0, 5, 1, 1] script).1 =
      [.octets [1, 2], .octets [], .octets [3], .failed EngineError.timeout.toReadError, .octets [4]] := by decide
  obtain ⟨⟨handed, hleft, hoctets⟩, hnext, n, hn, r, -, -, hdrain, hok, -, hrest⟩ :=
    scripted_reads scripted_pieces script hfull [2, 0, 5, 1, 1]
  refine ⟨hfull, hreads, ⟨handed, hleft, ?_⟩, ?_, ?_⟩
  · rw [hreads] at hoctets
    exact hoctets
  · exact ((hnext 4).2.2.1 [5] (by decide) (by decide)).1
  · have hd : Source.discard t = r := hdrain _ hn
    rw [hd]
    exact Prod.ext (hok.mpr (.inr (by decide))) hrest

end FramedHttp.Content
