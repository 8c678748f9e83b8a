import FramedHttp.Wire.Writer

/-!
# Chunked transfer coding

A chunk is its size in hexadecimal, a line end, the data and a line end. A chunk of size zero ends the
body, so empty data is no chunk at all.
-/

set_option autoImplicit false

namespace FramedHttp.Chunk

def sizeLine (data : Octets) : Octets :=
  Octets.hex data.length ++ Octets.crlf

/-- The chunk as it stands on the wire. -/
def encode (data : Octets) : Octets :=
  if data.isEmpty then [] else sizeLine data ++ data ++ Octets.crlf

/-- The zero-size chunk with an empty trailer section. -/
def terminator : Octets :=
  Octets.hex 0 ++ Octets.crlf ++ Octets.crlf

/-- Size line, data and line end are written one after the other, up to the first failure. -/
def write (data : Octets) (w : Writer) : Outcome EngineError Writer :=
  if data.isEmpty then (.ok (), w)
  else ((w.put (sizeLine data)).andThen (·.put data)).andThen (·.put Octets.crlf)

/-- With room for it, a chunk goes out as a whole. -/
theorem write_free {w : Writer} (h : w.limit = none) (data : Octets) :
    write data w = (.ok (), { w with octets := w.octets ++ encode data }) := by
  unfold write encode
  split
  · rw [List.append_nil]
  · rw [Writer.put_free h, Outcome.andThen_ok, Writer.put_free (by exact h), Outcome.andThen_ok,
      Writer.put_free (by exact h), List.append_assoc, List.append_assoc]

def writeLast (w : Writer) : Outcome EngineError Writer :=
  (w.put terminator).andThen (·.flush)

end FramedHttp.Chunk
