import FramedHttp.Proofs.Wire.Layout

/-!
# Emissions as writes and flushes

What an emission does to a writer is a list of writes and flushes, carried out up to the first that fails. The
list depends on the emission and on the framing alone, so two writers are asked for the same, and what writes
and flushes keep of a writer, every emission keeps.
-/

set_option autoImplicit false

namespace FramedHttp

namespace Writer

inductive Act where
  | put (data : Octets)
  | flush

def act : Act → Writer → Outcome EngineError Writer
  | .put data, w => w.put data
  | .flush, w => w.flush

/-- The acts one after the other, up to the first that fails. -/
def play : List Act → Writer → Outcome EngineError Writer
  | [], w => (.ok (), w)
  | a :: rest, w => (w.act a).andThen (play rest)

theorem andThen_play_nil (r : Outcome EngineError Writer) : r.andThen (play []) = r := by
  obtain ⟨_ | _, _⟩ := r <;> rfl

theorem play_append (acts rest : List Act) (w : Writer) :
    w.play (acts ++ rest) = (w.play acts).andThen (play rest) := by
  induction acts generalizing w with
  | nil => rfl
  | cons a acts ih =>
    rw [List.cons_append, play, play, Outcome.andThen_assoc]
    congr 1
    funext v
    exact ih v

variable {P : Writer → Prop} (hP : ∀ {w : Writer}, P w → ∀ a : Act, P (w.act a).2)
include hP

theorem play_keeps {w : Writer} (h : P w) (acts : List Act) : P (w.play acts).2 := by
  induction acts generalizing w with
  | nil => exact h
  | cons a acts ih => exact Outcome.andThen_keeps (hP h a) fun _ hv => ih hv

end Writer

namespace Framing

open Writer

/-- A framing that stays as it was until all acts were carried out. -/
def settle (during reached : Framing) : Outcome EngineError Writer → Outcome EngineError (Framing × Writer)
  | (.ok _, w) => (.ok (), reached, w)
  | (.error e, w) => (.error e, during, w)

def pieceActs : Framing → Octets → List Act
  | .chunked, data =>
    if data.isEmpty then [] else [.put (Chunk.sizeLine data), .put data, .put Octets.crlf]
  | _, data => [.put data]

def endActs : Framing → List Act
  | .chunked => [.put Chunk.terminator, .flush]
  | _ => [.flush]

variable {framing : Framing}

theorem settle_self (r : Outcome EngineError Writer) : settle framing framing r = r.mapState (framing, ·) := by
  obtain ⟨_ | _, w⟩ := r <;> rfl

theorem settle_snd_snd (during reached : Framing) (r : Outcome EngineError Writer) :
    (settle during reached r).2.2 = r.2 := by
  obtain ⟨_ | _, w⟩ := r <;> rfl

theorem settle_andThen (during reached : Framing) (r : Outcome EngineError Writer)
    {next : Framing × Writer → Outcome EngineError (Framing × Writer)} {acts : List Act}
    (h : ∀ w, next (during, w) = settle during reached (w.play acts)) :
    (settle during during r).andThen next = settle during reached (r.andThen (play acts)) := by
  obtain ⟨_ | _, w⟩ := r
  · rfl
  · exact h w

theorem chunk_acts (data : Octets) (w : Writer) :
    Chunk.write data w = w.play (Framing.chunked.pieceActs data) := by
  unfold Chunk.write
  by_cases hd : data.isEmpty = true
  · simp only [pieceActs, hd, if_true]
    rfl
  · have he : (fun v : Writer => v.put Octets.crlf) = play [.put Octets.crlf] := by
      funext v
      exact (andThen_play_nil _).symm
    simp only [pieceActs, hd]
    rw [Outcome.andThen_assoc, he]
    rfl

theorem writeBody_acts (ho : framing.isOpen = true) (data : Octets) (w : Writer) :
    writeBody data (framing, w) = settle framing framing (w.play (framing.pieceActs data)) := by
  rw [settle_self]
  cases framing with
  | identity => exact congrArg (Outcome.mapState (Framing.identity, ·)) (andThen_play_nil (w.put data)).symm
  | chunked => exact congrArg (Outcome.mapState (Framing.chunked, ·)) (chunk_acts data w)
  | pending => cases ho
  | done => cases ho

theorem finish_acts (ho : framing.isOpen = true) (w : Writer) :
    finish (framing, w) = settle framing .done (w.play framing.endActs) := by
  cases framing with
  | identity =>
    simp only [finish, endActs, play, act]
    rcases w.flush with ⟨_ | _, v⟩ <;> rfl
  | chunked =>
    simp only [finish, endActs, play, act, Chunk.writeLast]
    rcases w.put Chunk.terminator with ⟨_ | _, v⟩
    · rfl
    · simp only [Outcome.andThen]
      rcases v.flush with ⟨_ | _, u⟩ <;> rfl
  | pending => cases ho
  | done => cases ho

theorem body_acts (ho : framing.isOpen = true) (chunk : Octets) (last : Bool) (w : Writer) :
    body chunk last (framing, w) =
      settle framing (if last then .done else framing)
        (w.play (framing.pieceActs chunk ++ if last then framing.endActs else [])) := by
  rw [body, writeBody_acts ho, play_append]
  apply settle_andThen
  intro v
  cases last with
  | false => rfl
  | true => exact finish_acts ho v

theorem headers_acts (head : ResponseHead) (buffered : Octets) (last : Bool) (w : Writer) :
    let chosen := choose head buffered last
    headers head buffered last (.pending, w) =
      settle chosen.1 (if last then .done else chosen.1)
        (w.play (.put (headOctets head chosen.2) ::
          (chosen.1.pieceActs buffered ++ if last then chosen.1.endActs else []))) := by
  intro chosen
  change ((w.put (headOctets head chosen.2)).mapState (chosen.1, ·)).andThen (body buffered last) = _
  rw [← settle_self, play]
  exact settle_andThen _ _ _ (body_acts (choose_open head buffered last) buffered last)

/-- What becomes of an emission in a framing, whatever the writer: it is refused, or carried out in acts. -/
inductive Conduct (e : Emission) (framing : Framing) : Prop
  | refused (error : EngineError) (h : ∀ w, emit e (framing, w) = (.error error, framing, w))
  | acts (during reached : Framing) (acts : List Act)
      (h : ∀ w, emit e (framing, w) = settle during reached (w.play acts))

theorem conduct (e : Emission) (framing : Framing) : Conduct e framing := by
  cases e with
  | headers head buffered last =>
    cases framing with
    | pending => exact .acts _ _ _ (headers_acts head buffered last)
    | _ => exact .refused (.illegalState .headersAlreadyWritten) fun _ => rfl
  | body chunk last =>
    by_cases ho : framing.isOpen = true
    · exact .acts _ _ _ (body_acts ho chunk last)
    · cases framing with
      | identity | chunked => exact absurd rfl ho
      | _ => exact .refused (.illegalState .bodyOutsideResponse) fun _ => rfl
  | finish =>
    by_cases ho : framing.isOpen = true
    · exact .acts _ _ _ (finish_acts ho)
    · cases framing with
      | identity | chunked => exact absurd rfl ho
      | pending => exact .acts .pending .pending [] fun _ => rfl
      | done => exact .acts .done .done [] fun _ => rfl
  | informational status =>
    have hf : Writer.flush = play [.flush] := by
      funext v
      exact (andThen_play_nil _).symm
    refine .acts framing framing [.put (headOctets (.ofStatus status) .empty), .flush] fun w => ?_
    rw [settle_self]
    change ((w.put _).andThen Writer.flush).mapState (framing, ·) = _
    rw [hf]
    rfl
  | raw octets =>
    refine .acts framing framing [.put octets] fun w => ?_
    rw [settle_self]
    exact congrArg (Outcome.mapState (framing, ·)) (andThen_play_nil (w.put octets)).symm

/-- What writes and flushes keep of a writer, an emission keeps. -/
theorem emit_keeps {P : Writer → Prop} (hP : ∀ {w : Writer}, P w → ∀ a : Act, P (w.act a).2)
    {s : Framing × Writer} (h : P s.2) (e : Emission) : P (emit e s).2.2 := by
  obtain ⟨framing, w⟩ := s
  cases conduct e framing with
  | refused error he =>
    rw [he]
    exact h
  | acts during reached acts he =>
    rw [he, settle_snd_snd]
    exact play_keeps hP h acts

end Framing

end FramedHttp
