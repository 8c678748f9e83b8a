import FramedHttp.Content.Body

/-!
# What reading keeps

A reading touches its source only by awaiting, consuming and giving up, and by letting a wait expire where
nothing comes. A property that these keep is kept by every use of a body, however long the reading and
whatever it answers.
-/

set_option autoImplicit false

namespace FramedHttp.Content

variable {γ : Type} [Source γ]

/-- Kept by a read, while no wait expires. -/
structure Reads (Q : γ → Prop) : Prop where
  await : ∀ {s : γ}, Q s → ∀ waits, Q (Source.await waits s).2
  consume : ∀ {s : γ}, Q s → ∀ n, Q (Source.consume n s).2

/-- Kept while no wait expires. -/
structure Serves (Q : γ → Prop) : Prop extends Reads Q where
  discard : ∀ {s : γ}, Q s → Q (Source.discard s).2

structure Keeps (Q : γ → Prop) : Prop extends Serves Q where
  expire : ∀ {s : γ}, Q s → ∀ maxIdle, Q (Source.expire maxIdle s).2

variable {Q : γ → Prop} {s : γ}

section Reads

variable (hQ : Reads Q)
include hQ

theorem read_keeps (hs : Q s) (waits : Bool) (wanted : Option Nat) : Q (read waits wanted s).2 := by
  unfold read
  split
  · exact hs
  · have ha := hQ.await hs waits
    rcases h : Source.await waits s with ⟨fragment | _ | _ | _, t⟩ <;> rw [h] at ha
    · have hc := hQ.consume ha (Reading.cut wanted fragment).length
      dsimp only
      split <;> next hr => rwa [hr] at hc
    · exact ha
    · exact ha
    · exact ha

theorem step_keeps (hs : Q s) (r : Reading) : Q (r.step s).2 :=
  read_keeps hQ hs r.waits r.wanted

variable (hexpire : ∀ {s : γ}, Q s → ∀ maxIdle, Q (Source.expire maxIdle s).2)
include hexpire

theorem finish_keeps (hs : Q s) (maxIdle : Duration) (n : Nat) (p : Progress) :
    Q (p.finish maxIdle n s).2 := by
  induction n generalizing p s with
  | zero => cases p <;> exact hs
  | succ n ih =>
    cases p with
    | done => exact hs
    | more r => exact ih (step_keeps hQ hs r) _
    | waiting r => exact ih (hexpire hs maxIdle) _

/-- A use of a body that does not give it up. -/
theorem reading_keeps (hs : Q s) (maxIdle : Duration) {op : BodyOp} (hop : op ≠ .discard) :
    Q (op.perform maxIdle s).2 := by
  unfold BodyOp.perform
  split
  · cases op with
    | discard => exact absurd rfl hop
    | _ => exact hs
  · exact finish_keeps hQ hexpire hs maxIdle _ _

end Reads

theorem immediate_keeps (hQ : Serves Q) (hs : Q s) (op : BodyOp) : Q (op.immediate s).2 := by
  cases op with
  | discard => exact hQ.discard hs
  | _ => exact hs

theorem perform_keeps (hQ : Keeps Q) (hs : Q s) (maxIdle : Duration) (op : BodyOp) :
    Q (op.perform maxIdle s).2 := by
  by_cases hop : op = .discard
  · rw [hop]
    exact hQ.discard hs
  · exact reading_keeps hQ.toReads hQ.expire hs maxIdle hop

/-- The reading that goes on after this progress does not wait. -/
def Progress.Moving : Progress → Prop
  | .done _ => True
  | .more r => r.waits = false
  | .waiting _ => False

theorem receive_moving (octets : Octets) (r : Reading) : (r.receive octets).Moving := by
  unfold Reading.receive
  dsimp only
  split
  · trivial
  · split
    · trivial
    · split
      · trivial
      · rfl
  · split
    · trivial
    · rfl

theorem fail_moving (e : IoError) (r : Reading) : (r.fail e).Moving := by
  unfold Reading.fail
  split
  · rfl
  · rfl
  · trivial

theorem start_moving (goal : Goal) : (Reading.start goal).Moving := by
  unfold Reading.start
  split
  · trivial
  · rfl

theorem read_found {waits : Bool} (h : (Source.await waits s).1 ≠ .waiting) (wanted : Option Nat) :
    (read waits wanted s).1 ≠ .waiting := by
  unfold read
  split
  · exact Read.noConfusion
  · rcases hr : Source.await waits s with ⟨fragment | _ | _ | _, t⟩
    · dsimp only
      split <;> exact Read.noConfusion
    · exact Read.noConfusion
    · exact Read.noConfusion
    · exact absurd (congrArg Prod.fst hr) h

/-- A reading whose source has an answer moves on. -/
theorem step_moving {r : Reading} (h : (Source.await r.waits s).1 ≠ .waiting) : (r.step s).1.Moving := by
  have hr := read_found h r.wanted
  unfold Reading.step Reading.proceed
  dsimp only
  split
  · exact receive_moving _ r
  · exact fail_moving _ r
  · exact absurd ‹_› hr

/-- A read that brings octets is one whole use of the body. -/
theorem perform_read {t : γ} {n : Nat} {octets : Octets} (h : read false (some n) s = (.octets octets, t))
    (maxIdle : Duration) : (BodyOp.read n).perform maxIdle s = (.ok (.octets octets), t) := by
  have hs : Reading.step { goal := .once n } s = (.done (.ok octets), t) := by
    change ((Reading.proceed (read false (some n) s).1 _), (read false (some n) s).2) = _
    rw [h]
    rfl
  have hr : readAll maxIdle (.once n) s = (.ok octets, t) := by
    change Progress.finish maxIdle (Source.reads s + 1) (Reading.step { goal := .once n } s).1 _ = _
    rw [hs]
    rfl
  change ((readAll maxIdle (.once n) s).1.bind _, (readAll maxIdle (.once n) s).2) = _
  rw [hr]
  rfl

/-- Reads into buffers of these sizes, one after the other. -/
def readEach : List Nat → γ → List Read × γ
  | [], s => ([], s)
  | n :: sizes, s =>
    let r := read false (some n) s
    let rest := readEach sizes r.2
    (r.1 :: rest.1, rest.2)

/-- One more read, after any others. -/
theorem readEach_snoc (sizes : List Nat) (n : Nat) (s : γ) :
    readEach (sizes ++ [n]) s = ((readEach sizes s).1 ++ [(read false (some n) (readEach sizes s).2).1],
      (read false (some n) (readEach sizes s).2).2) := by
  induction sizes generalizing s with
  | nil => rfl
  | cons m sizes ih =>
    rw [List.cons_append, readEach, ih]
    rfl

end FramedHttp.Content
