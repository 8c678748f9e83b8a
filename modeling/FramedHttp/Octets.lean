/-!
# Octets

What travels on a connection is a list of octets. Text becomes octets through UTF-8; sizes are written
in decimal in a header field and in lower-case hexadecimal in front of a chunk.
-/

set_option autoImplicit false

namespace FramedHttp

abbrev Octets := List UInt8

namespace Octets

def ofChars (chars : List Char) : Octets :=
  chars.flatMap String.utf8EncodeChar

def ofText (text : String) : Octets :=
  ofChars text.toList

/-- The text, when the octets are well-formed UTF-8. -/
def text? (octets : Octets) : Option String :=
  String.fromUTF8? ⟨octets.toArray⟩

def crlf : Octets := [13, 10]

/-- A size in lower-case hexadecimal, without leading zeros. -/
def hex (n : Nat) : Octets :=
  ofChars (Nat.toDigits 16 n)

theorem ofChars_append (a b : List Char) : ofChars (a ++ b) = ofChars a ++ ofChars b := by
  simp [ofChars]

end Octets

end FramedHttp
