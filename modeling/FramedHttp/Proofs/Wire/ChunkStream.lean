import FramedHttp.Proofs.Wire.ChunkReader

/-!
# A body written in chunks

Pieces are written as chunks, one after the other, and then the last chunk. The reader is in step with the writer:
it has the pieces back as one body when the last octet has come, and not before.
-/

set_option autoImplicit false

namespace FramedHttp.Chunk

/-- Every piece is written as a chunk, up to the first failure. -/
def writeEach : List Octets → Writer → Outcome EngineError Writer
  | [], w => (.ok (), w)
  | piece :: pieces, w => (write piece w).andThen (writeEach pieces)

theorem writeEach_free {w : Writer} (h : w.limit = none) (pieces : List Octets) :
    writeEach pieces w = (.ok (), { w with octets := w.octets ++ pieces.flatMap encode }) := by
  induction pieces generalizing w with
  | nil => rw [List.flatMap_nil, List.append_nil, writeEach]
  | cons piece pieces ih => rw [writeEach, write_free h, Outcome.andThen_ok, ih (by exact h), List.flatMap_cons,
      List.append_assoc]

theorem writeLast_free {w : Writer} (h : w.limit = none) :
    writeLast w = { w with octets := w.octets ++ terminator }.flush := by
  rw [writeLast, Writer.put_free h, Outcome.andThen_ok]

/-- Of what is written in chunks, only the whole is read as a body. -/
theorem read_take (pieces : List Octets) (n : Nat) :
    let written := pieces.flatMap encode ++ terminator
    read? (written.take n) = none ↔ n < written.length := by
  intro written
  constructor
  · intro hr
    by_contra hn
    have hall := read_pieces pieces []
    rw [List.append_nil] at hall
    rw [List.take_of_length_le (Nat.le_of_not_lt hn)] at hr
    cases hr.symm.trans hall
  · intro hn
    have hm : written.drop n ≠ [] := by simpa using hn
    exact read_cut pieces hm (List.take_append_drop n _)

/-- Any pieces that are written as chunks, empty ones included, go out whole behind what was written before, and
the last chunk succeeds when its flush does. The reader has them back as one body, whatever they look like and
whatever comes behind the last chunk, and leaves exactly that. While any of the octets is missing it has no body. -/
theorem written_read_back (pieces : List Octets) (before rest : Octets) (flushFails : Nat → Bool) :
    let w : Writer := { flushFails := flushFails, octets := before }
    let chunks := writeEach pieces w
    let ended := chunks.andThen writeLast
    chunks.1 = .ok () ∧ (ended.1 = .ok () ↔ flushFails 0 = false) ∧
    ∃ written, ended.2.octets = before ++ written ∧
      read? (written ++ rest) = some (pieces.flatten, rest) ∧
      ∀ n, read? (written.take n) = none ↔ n < written.length := by
  intro w chunks ended
  have hchunks : chunks = (.ok (), { w with octets := before ++ pieces.flatMap encode }) := writeEach_free rfl pieces
  have hended : ended = Writer.flush { w with octets := before ++ pieces.flatMap encode ++ terminator } := by
    rw [show ended = chunks.andThen writeLast from rfl, hchunks, Outcome.andThen_ok, writeLast_free (by exact rfl)]
  refine ⟨by rw [hchunks], ?_, pieces.flatMap encode ++ terminator, ?_, read_pieces pieces rest, read_take pieces⟩
  · rw [hended, Writer.flush]
    cases hf : flushFails 0 <;> simp [w, hf]
  · rw [hended, Writer.flush_snd]
    exact List.append_assoc _ _ _

end FramedHttp.Chunk
