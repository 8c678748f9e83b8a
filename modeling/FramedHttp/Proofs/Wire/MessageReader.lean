import FramedHttp.Proofs.Headers
import FramedHttp.Proofs.Wire.ChunkReader
import FramedHttp.Wire.Encoder

/-!
# Reading responses back

A reader of HTTP/1.1 responses takes the status line, header lines up to the empty line, and then a body
in chunks or of the announced length. A head whose names, values and reason hold no line ends, and whose
names hold no colon, is read back as it was.
-/

set_option autoImplicit false

namespace FramedHttp

namespace Octets

/-- An octet of the ASCII range stands for itself alone. -/
theorem mem_utf8EncodeChar {c : Char} {b : UInt8} (h : b ∈ String.utf8EncodeChar c) (hb : b.toNat < 128) :
    c.toNat = b.toNat := by
  have hc : c.val.toNat = c.toNat := rfl
  unfold String.utf8EncodeChar at h
  dsimp only at h
  split at h
  · rw [List.mem_singleton.mp h, UInt8.toNat_ofNat']
    omega
  · exfalso
    revert hb
    split at h
    · simp only [List.mem_cons, List.not_mem_nil, or_false] at h
      rcases h with rfl | rfl <;> rw [UInt8.toNat_ofNat'] <;> omega
    · split at h
      · simp only [List.mem_cons, List.not_mem_nil, or_false] at h
        rcases h with rfl | rfl | rfl <;> rw [UInt8.toNat_ofNat'] <;> omega
      · simp only [List.mem_cons, List.not_mem_nil, or_false] at h
        rcases h with rfl | rfl | rfl | rfl <;> rw [UInt8.toNat_ofNat'] <;> omega

theorem not_mem_ofText {c : Char} {text : String} (hc : c.toNat < 128) (h : c ∉ text.toList) :
    UInt8.ofNat c.toNat ∉ ofText text := by
  intro hm
  obtain ⟨d, hd, hb⟩ := List.mem_flatMap.mp hm
  have hn : (UInt8.ofNat c.toNat).toNat = c.toNat := by
    rw [UInt8.toNat_ofNat']
    omega
  have he := mem_utf8EncodeChar hb (by omega)
  rw [hn] at he
  exact h (Char.toNat_inj.mp he ▸ hd)

theorem text_ofText (text : String) : text? (ofText text) = some text := by
  have hb : (⟨(ofText text).toArray⟩ : ByteArray) = text.toByteArray := by
    rw [← String.utf8Encode_toList]
    apply ByteArray.ext
    rw [List.utf8Encode, List.data_toByteArray]
    rfl
  unfold text?
  rw [hb]
  exact dif_pos text.isValidUTF8

/-- What stands before the first of a separating octet, and what follows it. -/
def cut? (separator : UInt8) : Octets → Option (Octets × Octets)
  | [] => none
  | b :: rest =>
    if b = separator then some ([], rest) else (cut? separator rest).map fun x => (b :: x.1, x.2)

theorem cut_read {separator : UInt8} {a : Octets} (h : separator ∉ a) (rest : Octets) :
    cut? separator (a ++ separator :: rest) = some (a, rest) := by
  induction a with
  | nil => exact if_pos rfl
  | cons b a ih =>
    have hb : ¬ b = separator := fun hb => h (by simp [hb])
    rw [List.cons_append, cut?, if_neg hb, ih fun hm => h (by simp [hm])]
    rfl

/-- The lines before the first empty line, and what follows that. -/
def lines? (octets : Octets) : Option (List Octets × Octets) :=
  match _ : line? octets with
  | none => none
  | some ([], rest) => some ([], rest)
  | some (b :: line, rest) => (lines? rest).map fun x => ((b :: line) :: x.1, x.2)
termination_by octets.length
decreasing_by exact line_shorter ‹_›

theorem lines_read (lines : List Octets) (h : ∀ l ∈ lines, l ≠ [] ∧ 13 ∉ l) (rest : Octets) :
    lines? (lines.flatMap (· ++ crlf) ++ crlf ++ rest) = some (lines, rest) := by
  induction lines with
  | nil =>
    have hl : line? (crlf ++ rest) = some ([], rest) := line_read (l := []) (by simp) rest
    rw [List.flatMap_nil, List.nil_append, lines?]
    split
    · next hr => cases hr.symm.trans hl
    · next hr =>
      cases hr.symm.trans hl
      rfl
    · next hr => cases hr.symm.trans hl
  | cons l ls ih =>
    obtain ⟨hne, hcr⟩ := h l (by simp)
    have hl : line? ((l :: ls).flatMap (· ++ crlf) ++ crlf ++ rest) =
        some (l, ls.flatMap (· ++ crlf) ++ crlf ++ rest) := by
      rw [List.flatMap_cons, List.append_assoc, List.append_assoc, line_read hcr, List.append_assoc]
    rw [lines?]
    split
    · next hr => cases hr.symm.trans hl
    · next hr =>
      cases hr.symm.trans hl
      exact absurd rfl hne
    · next hr =>
      cases hr.symm.trans hl
      rw [ih fun k hk => h k (by simp [hk])]
      rfl

end Octets

open Octets

/-- A response as it was read. -/
structure Received where
  version : Version
  statusLine : String
  headers : Headers
  body : Octets
  deriving DecidableEq, Repr

namespace Received

def start? (line : Octets) : Option (Version × String) :=
  match cut? 32 line with
  | none => none
  | some (version, status) =>
    match text? version, text? status with
    | some version, some status =>
      match Version.ofText version with
      | .ok version => some (version, status)
      | .error _ => none
    | _, _ => none

/-- A name, a colon and a space, and everything else is the value. -/
def field? (line : Octets) : Option Field :=
  match cut? 58 line with
  | some (name, 32 :: value) =>
    match text? name, text? value with
    | some name, some value => some ⟨name, value⟩
    | _, _ => none
  | _ => none

def fields? : List Octets → Option (List Field)
  | [] => some []
  | line :: rest =>
    match field? line, fields? rest with
    | some f, some fs => some (f :: fs)
    | _, _ => none

/-- The body that the header section announces, and what is left behind it: chunks or one length, and
never both. -/
def body? (headers : Headers) (octets : Octets) : Option (Octets × Octets) :=
  match headers.values Framing.transferEncoding, headers.values Framing.contentLength with
  | ["chunked"], [] => Chunk.read? octets
  | [], [text] =>
    match number? 10 (ofText text) with
    | some n => if n ≤ octets.length then some (octets.take n, octets.drop n) else none
    | none => none
  | _, _ => none

/-- The response in front, and what is left behind it. -/
def read? (octets : Octets) : Option (Received × Octets) :=
  match lines? octets with
  | some (line :: lines, rest) =>
    match start? line, fields? lines with
    | some (version, statusLine), some fields =>
      (body? ⟨fields⟩ rest).map fun x =>
        ({ version := version, statusLine := statusLine, headers := ⟨fields⟩, body := x.1 }, x.2)
    | _, _ => none
  | _ => none

end Received

/-- The field stands on a line of its own, with the colon behind its name as the first. -/
def Field.Plain (f : Field) : Prop :=
  (':' ∉ f.name.toList ∧ '\r' ∉ f.name.toList ∧ '\n' ∉ f.name.toList) ∧
    '\r' ∉ f.value.toList ∧ '\n' ∉ f.value.toList

/-- The reason, if it was given, stays on its line. -/
def ResponseHead.PlainReason (head : ResponseHead) : Prop :=
  ∀ reason, head.reason? = some reason → '\r' ∉ reason.toList ∧ '\n' ∉ reason.toList

namespace Received

theorem field_read {f : Field} (h : f.Plain) :
    field? (ofText f.name ++ ofText ": " ++ ofText f.value) = some f ∧
      ofText f.name ++ ofText ": " ++ ofText f.value ≠ [] ∧
      13 ∉ ofText f.name ++ ofText ": " ++ ofText f.value := by
  have hs : ofText ": " = [58, 32] := by decide
  have hcolon : 58 ∉ ofText f.name := not_mem_ofText (c := ':') (by decide) h.1.1
  have hname : 13 ∉ ofText f.name := not_mem_ofText (c := '\r') (by decide) h.1.2.1
  have hvalue : 13 ∉ ofText f.value := not_mem_ofText (c := '\r') (by decide) h.2.1
  have hc : cut? 58 (ofText f.name ++ ofText ": " ++ ofText f.value) =
      some (ofText f.name, 32 :: ofText f.value) := by
    rw [hs, List.append_assoc]
    exact cut_read hcolon _
  have hf : field? (ofText f.name ++ ofText ": " ++ ofText f.value) = some f := by
    simp only [field?, hc, text_ofText]
  exact ⟨hf, by simp [hs], by simp [hs, hname, hvalue]⟩

theorem fields_read {fields : List Field} (h : ∀ f ∈ fields, f.Plain) :
    fields? (fields.map fun f => ofText f.name ++ ofText ": " ++ ofText f.value) = some fields := by
  induction fields with
  | nil => rfl
  | cons f fs ih =>
    have hf := (field_read (h f (by simp))).1
    have hfs := ih fun g hg => h g (by simp [hg])
    rw [List.map_cons]
    simp only [fields?, hf, hfs]

theorem start_read (version : Version) {status : String} (h : '\r' ∉ status.toList) :
    start? (ofText version.name ++ ofText " " ++ ofText status) = some (version, status) ∧
      ofText version.name ++ ofText " " ++ ofText status ≠ [] ∧
      13 ∉ ofText version.name ++ ofText " " ++ ofText status := by
  have hs : ofText " " = [32] := by decide
  have hspace : 32 ∉ ofText version.name := by cases version <;> decide
  have hname : 13 ∉ ofText version.name := by cases version <;> decide
  have hstatus : 13 ∉ ofText status := not_mem_ofText (c := '\r') (by decide) h
  have hc : cut? 32 (ofText version.name ++ ofText " " ++ ofText status) =
      some (ofText version.name, ofText status) := by
    rw [hs, List.append_assoc]
    exact cut_read hspace _
  have hl : start? (ofText version.name ++ ofText " " ++ ofText status) = some (version, status) := by
    simp only [start?, hc, text_ofText, Version.ofText_name]
  exact ⟨hl, by simp [hs], by simp [hs, hname, hstatus]⟩

end Received

theorem Status.plain_reason (n : Nat) : '\r' ∉ (Status.reasonOf n).toList := by
  unfold Status.reasonOf
  split <;> decide

theorem isDigit_toString {n : Nat} {c : Char} (h : c ∈ (toString n).toList) : c.isDigit = true := by
  rw [Nat.toString_eq_ofList_toDigits, String.toList_ofList] at h
  exact Nat.isDigit_of_mem_toDigits (by decide) (by decide) h

theorem not_mem_toString (n : Nat) {c : Char} (h : c.isDigit = false) : c ∉ (toString n).toList := by
  intro hc
  exact absurd (h.symm.trans (isDigit_toString hc)) (by decide)

theorem ResponseHead.plain_statusLine {head : ResponseHead} (h : head.PlainReason) :
    '\r' ∉ head.statusLine.toList := by
  have hr : '\r' ∉ head.reason.toList := by
    unfold reason
    cases hg : head.reason? with
    | none => exact Status.plain_reason _
    | some reason => exact (h reason hg).1
  unfold statusLine
  split
  · exact not_mem_toString _ rfl
  · have hc : '\r' ∉ (toString head.status.code).toList := not_mem_toString _ rfl
    rw [String.toList_append, String.toList_append, List.mem_append, List.mem_append]
    rintro ((h | h) | h)
    · exact hc h
    · exact absurd h (by decide)
    · exact hr h

namespace Received

theorem headOctets_lines (head : ResponseHead) (headers : Headers) :
    Framing.headOctets head headers =
      ((ofText head.version.name ++ ofText " " ++ ofText head.statusLine) ::
        headers.fields.map fun f => ofText f.name ++ ofText ": " ++ ofText f.value).flatMap (· ++ crlf) ++
      crlf := by
  have hf : headers.fields.flatMap Framing.fieldLine =
      (headers.fields.map fun f => ofText f.name ++ ofText ": " ++ ofText f.value).flatMap (· ++ crlf) := by
    rw [List.flatMap_map]
    rfl
  rw [List.flatMap_cons, ← hf]
  rfl

/-- A plain head is read back with its fields, and its body as it is announced. -/
theorem read_head {head : ResponseHead} {headers : Headers} (hr : head.PlainReason)
    (hf : ∀ f ∈ headers.fields, f.Plain) {octets body left : Octets}
    (hb : body? headers octets = some (body, left)) :
    read? (Framing.headOctets head headers ++ octets) =
      some ({ version := head.version, statusLine := head.statusLine, headers := headers, body := body },
        left) := by
  obtain ⟨hs, hne, hcr⟩ := start_read head.version (ResponseHead.plain_statusLine hr)
  have hl := lines_read
    ((ofText head.version.name ++ ofText " " ++ ofText head.statusLine) ::
      headers.fields.map fun f => ofText f.name ++ ofText ": " ++ ofText f.value)
    (by
      intro l hl
      rcases List.mem_cons.mp hl with rfl | hl
      · exact ⟨hne, hcr⟩
      · obtain ⟨f, hm, rfl⟩ := List.mem_map.mp hl
        exact (field_read (hf f hm)).2) octets
  rw [← headOctets_lines] at hl
  simp only [read?, hl, hs, fields_read hf, hb]
  rfl

end Received

end FramedHttp
